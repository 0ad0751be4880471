import SchemaToSwift.Names.Table
import SchemaToSwift.Proofs.Swift.Camel
import SchemaToSwift.Proofs.Swift.Word
import SchemaToSwift.Proofs.Text.Split

/-!
# Letters of a name in camel case

Camel case changes the case of letters and drops underscores, and does no more than that to an
ASCII name: in lower case it is the name without its underscores (`map_toLower_upperCamelChars`,
`map_toLower_lowerCamelChars`). So the name in camel case has no underscores, and is made of letters
and digits if the name is an identifier. Names whose letters differ stay apart in camel case, also
behind the quotes of a reserved word and without the prefix that the values of an enum have
(`EnumCase.letters_of_name_eq`).
-/

namespace SchemaToSwift

namespace Text

variable {cs : List Char} (h : ∀ c ∈ cs, isAscii c = true)
include h

/-- Lower case, one character after the other. -/
theorem lowerFrom_ascii (afterCased : Bool) : lowerFrom afterCased cs = cs.map Char.toLower := by
  induction cs generalizing afterCased with
  | nil => rfl
  | cons c rest ih =>
    have hc := h c (.head _)
    have hsigma : (c == 'Σ') = false := by
      rw [beq_eq_false_iff_ne]
      rintro rfl
      cases hc
    rw [lowerFrom, ih (fun d hd => h d (.tail _ hd)), hsigma, lowerChar, if_pos hc]
    rfl

theorem lowerChars_ascii : lowerChars cs = cs.map Char.toLower := lowerFrom_ascii h false

theorem upperChars_ascii : upperChars cs = cs.map Char.toUpper := by
  rw [upperChars, List.map_eq_flatMap]
  exact List.flatMap_congr fun c hc => by rw [upperChar, if_pos (h c hc)]

end Text

namespace Swift

/-- The characters of a name but for its underscores, in lower case. -/
def letters (cs : List Char) : List Char := (cs.filter (· ≠ '_')).map Char.toLower

theorem letters_of_not_mem {cs : List Char} (h : '_' ∉ cs) : letters cs = cs.map Char.toLower := by
  rw [letters, List.filter_eq_self.2 fun c hc => decide_eq_true (ne_of_mem_of_not_mem hc h)]

/-! ## Changes of case -/

/-- Case mapping stays in ASCII. -/
theorem isAscii_toLower (c : Char) : Text.isAscii c.toLower = Text.isAscii c := by
  by_cases h : Text.isAscii c = true
  · rw [h]
    exact Text.forall_ascii (P := fun c => Text.isAscii c.toLower = true) (by decide) h
  · have hsame : c.toLower = c := dif_neg fun hupper => h (isAscii_of_isBareChar
      (isBareChar_of_startsBare (startsBare_of_isUpper (isUpper_iff.2 hupper))))
    rw [hsame]

section
variable {cs : List Char} (h : ∀ c ∈ cs, Text.isAscii c = true)
include h

/-- The lower-case form differs in case only. -/
theorem map_toLower_lowerChars : (Text.lowerChars cs).map Char.toLower = cs.map Char.toLower := by
  rw [Text.lowerChars_ascii h, List.map_map]
  exact List.map_congr_left fun c hc =>
    Text.forall_ascii (P := fun c => c.toLower.toLower = c.toLower) (by decide) (h c hc)

/-- A capital does not change the letters. -/
theorem map_toLower_capitalize : (capitalize cs).map Char.toLower = cs.map Char.toLower := by
  cases cs with
  | nil => rfl
  | cons c rest =>
    have hc := h c (.head _)
    rw [capitalize, Text.upperChar, if_pos hc, List.singleton_append, List.map_cons, List.map_cons,
      Text.forall_ascii (P := fun c => c.toUpper.toLower = c.toLower) (by decide) hc]

/-- Characters that differ from ASCII characters in case only are ASCII. -/
theorem isAscii_of_map_toLower {ds : List Char}
    (hsame : ds.map Char.toLower = cs.map Char.toLower) : ∀ d ∈ ds, Text.isAscii d = true := by
  intro d hd
  have hmem : d.toLower ∈ cs.map Char.toLower := hsame ▸ List.mem_map_of_mem hd
  obtain ⟨c, hc, heq⟩ := List.mem_map.1 hmem
  rw [← isAscii_toLower, ← heq, isAscii_toLower, h c hc]

end

/-- Words that change their case only make a name that changes its case only. -/
theorem map_toLower_flatten_map {f : List Char → List Char} {ws : List (List Char)}
    (h : ∀ w ∈ ws, (f w).map Char.toLower = w.map Char.toLower) :
    (ws.map f).flatten.map Char.toLower = ws.flatten.map Char.toLower := by
  rw [List.map_flatten, List.map_flatten, List.map_map]
  exact congrArg List.flatten (List.map_congr_left h)

/-! ## Camel case -/

/-- The words of a name are the name without its underscores. -/
theorem flatten_words (cs : List Char) : (words cs).flatten = cs.filter (· ≠ '_') := by
  have hsplit : (Text.splitAt '_' cs).flatten = cs.filter (· ≠ '_') := by
    induction cs with
    | nil => rfl
    | cons c rest ih =>
      rw [Text.splitAt]
      by_cases hc : c = '_'
      · simp [hc, ih]
      · cases hrest : Text.splitAt '_' rest with
        | nil => exact absurd hrest (Text.splitAt_ne_nil _ _)
        | cons part parts =>
          rw [hrest] at ih
          simpa [hc] using ih
  rw [words, ← hsplit]
  exact List.flatten_filter_not_isEmpty

/-- A word of a name is made of characters of the name. -/
theorem mem_of_mem_words {cs word : List Char} (hword : word ∈ words cs) {c : Char}
    (hc : c ∈ word) : c ∈ cs := by
  have hmem : c ∈ (words cs).flatten := List.mem_flatten.2 ⟨word, hword, hc⟩
  rw [flatten_words] at hmem
  exact List.mem_of_mem_filter hmem

section
variable {cs : List Char} (h : ∀ c ∈ cs, Text.isAscii c = true)
include h

/-- Upper camel case is the name without its underscores, but for the case. -/
theorem map_toLower_upperCamelChars : (upperCamelChars cs).map Char.toLower = letters cs := by
  have hwords : ∀ w ∈ words cs, ∀ c ∈ w, Text.isAscii c = true := fun w hw c hc =>
    h c (mem_of_mem_words hw hc)
  rw [letters, ← flatten_words, upperCamelChars]
  split
  · have hlower : ∀ w ∈ words cs,
        (Text.lowerChars w).map Char.toLower = w.map Char.toLower := fun w hw =>
      map_toLower_lowerChars (hwords w hw)
    have hcapitalize : ∀ w ∈ (words cs).map Text.lowerChars,
        (capitalize w).map Char.toLower = w.map Char.toLower := by
      intro w hw
      obtain ⟨word, hword, rfl⟩ := List.mem_map.1 hw
      exact map_toLower_capitalize (isAscii_of_map_toLower (hwords word hword) (hlower word hword))
    rw [map_toLower_flatten_map hcapitalize, map_toLower_flatten_map hlower]
  · exact map_toLower_flatten_map fun w hw => map_toLower_capitalize (hwords w hw)

theorem isAscii_upperCamelChars : ∀ c ∈ upperCamelChars cs, Text.isAscii c = true :=
  isAscii_of_map_toLower (fun c hc => h c (List.mem_of_mem_filter hc))
    (map_toLower_upperCamelChars h)

/-- So is lower camel case. -/
theorem map_toLower_lowerCamelChars : (lowerCamelChars cs).map Char.toLower = letters cs := by
  have htake : ∀ c ∈ (upperCamelChars cs).take (leadingCapitals (upperCamelChars cs)),
      Text.isAscii c = true := fun c hc => isAscii_upperCamelChars h c (List.mem_of_mem_take hc)
  rw [lowerCamelChars, List.map_append, map_toLower_lowerChars htake, ← List.map_append,
    List.take_append_drop, map_toLower_upperCamelChars h]

/-- A name that is another one without its underscores, but for the case, has no underscores. -/
theorem underscore_not_mem_of_letters {ds : List Char} (hsame : ds.map Char.toLower = letters cs) :
    '_' ∉ ds := by
  intro hmem
  have hletters : '_' ∈ letters cs := hsame ▸ List.mem_map_of_mem hmem
  obtain ⟨c, hc, hunderscore⟩ := List.mem_map.1 hletters
  rw [List.mem_filter] at hc
  exact absurd (Text.forall_ascii (P := fun c => c.toLower = '_' → c = '_') (by decide)
    (h c hc.1) hunderscore) (by simpa using hc.2)

/-- A name has the same letters in camel case. -/
theorem letters_lowerCamelChars : letters (lowerCamelChars cs) = letters cs := by
  have hsame := map_toLower_lowerCamelChars h
  rw [letters_of_not_mem (underscore_not_mem_of_letters h hsame), hsame]

end

/-! ## The first character in camel case -/

/-- Words that are put together with capitals do not begin with a letter in lower case. -/
theorem isLower_head?_flatten {ws : List (List Char)} (hnil : ∀ w ∈ ws, w ≠ [])
    (h : ∀ w ∈ ws, ∀ c ∈ w, Text.isAscii c = true) :
    ∀ c ∈ (ws.map capitalize).flatten.head?, c.isLower = false := by
  cases ws with
  | nil => nofun
  | cons w rest =>
    cases w with
    | nil => exact absurd rfl (hnil [] (.head _))
    | cons d more =>
      have hd := h _ (.head _) d (.head _)
      have hfirst : ((((d :: more) :: rest).map capitalize).flatten).head? = some d.toUpper := by
        rw [List.map_cons, List.flatten_cons, capitalize, Text.upperChar, if_pos hd]
        rfl
      rw [hfirst]
      rintro c ⟨⟩
      exact Text.forall_ascii (P := fun d => d.toUpper.isLower = false) (by decide) hd

section
variable {cs : List Char} (h : ∀ c ∈ cs, Text.isAscii c = true)
include h

theorem isLower_head?_upperCamelChars : ∀ c ∈ (upperCamelChars cs).head?, c.isLower = false := by
  have hwords : ∀ w ∈ words cs, ∀ c ∈ w, Text.isAscii c = true := fun w hw c hc =>
    h c (mem_of_mem_words hw hc)
  rw [upperCamelChars]
  split
  · refine isLower_head?_flatten (fun w hw => ?_) fun w hw => ?_
    · obtain ⟨word, hword, rfl⟩ := List.mem_map.1 hw
      exact fun hnil => ne_nil_of_mem_words hword (Text.lowerChars_eq_nil.1 hnil)
    · obtain ⟨word, hword, rfl⟩ := List.mem_map.1 hw
      exact isAscii_of_map_toLower (hwords word hword)
        (map_toLower_lowerChars (hwords word hword))
  · exact isLower_head?_flatten (fun w hw => ne_nil_of_mem_words hw) hwords

theorem isUpper_head?_lowerCamelChars : ∀ c ∈ (lowerCamelChars cs).head?, c.isUpper = false := by
  have hascii := isAscii_upperCamelChars h
  rw [lowerCamelChars]
  cases hjoined : upperCamelChars cs with
  | nil => nofun
  | cons d rest =>
    rw [hjoined] at hascii
    have hd := hascii d (.head _)
    have hsame : Text.isUpper d = d.isUpper := if_pos hd
    cases hupper : d.isUpper with
    | false =>
      have hnone : leadingCapitals (d :: rest) = 0 := by
        rw [leadingCapitals, List.takeWhile_cons_of_neg (by simp [hsame, hupper])]
        rfl
      rw [hnone]
      rintro c ⟨⟩
      exact hupper
    | true =>
      obtain ⟨n, hn⟩ : ∃ n, leadingCapitals (d :: rest) = n + 1 := by
        refine Nat.exists_eq_add_one.2 ?_
        rw [leadingCapitals, List.takeWhile_cons_of_pos (by simp [hsame, hupper]), List.length_cons]
        split <;> omega
      have htake : ∀ c ∈ d :: rest.take n, Text.isAscii c = true :=
        List.forall_mem_cons.2 ⟨hd, fun c hc => hascii c (.tail _ (List.mem_of_mem_take hc))⟩
      rw [hn, List.take_succ_cons, Text.lowerChars_ascii htake]
      rintro c ⟨⟩
      exact Text.forall_ascii (P := fun d => d.toLower.isUpper = false) (by decide) hd

end

/-! ## Identifiers in camel case -/

theorem isBareChar_of_isAlphanum {c : Char} (h : c.isAlphanum = true) : isBareChar c = true := by
  rw [isBareChar, h, Bool.true_or]

theorem isAscii_of_isAlphanum {cs : List Char} (h : ∀ c ∈ cs, c.isAlphanum = true) :
    ∀ c ∈ cs, Text.isAscii c = true := fun c hc =>
  isAscii_of_isBareChar (isBareChar_of_isAlphanum (h c hc))

/-- What has the letters of an identifier is made of letters and digits. -/
theorem isAlphanum_of_letters {cs ds : List Char} (h : ∀ c ∈ cs, isBareChar c = true)
    (hsame : ds.map Char.toLower = letters cs) : ∀ d ∈ ds, d.isAlphanum = true := by
  intro c hc
  have hletters : c.toLower ∈ letters cs := hsame ▸ List.mem_map_of_mem hc
  obtain ⟨d, hd, heq⟩ := List.mem_map.1 hletters
  rw [List.mem_filter] at hd
  have hbare := h d hd.1
  have hdAscii := isAscii_of_isBareChar hbare
  rw [isBareChar, Bool.or_eq_true, beq_iff_eq] at hbare
  have hdAlphanum := hbare.resolve_right (by simpa using hd.2)
  have hcAscii : Text.isAscii c = true := by
    rw [← isAscii_toLower, ← heq, isAscii_toLower, hdAscii]
  have hcase {e : Char} (he : Text.isAscii e = true) : e.toLower.isAlphanum = e.isAlphanum :=
    Text.forall_ascii (P := fun e => e.toLower.isAlphanum = e.isAlphanum) (by decide) he
  rw [← hcase hcAscii, ← heq, hcase hdAscii, hdAlphanum]

/-- An identifier in camel case is made of letters and digits. -/
theorem isAlphanum_upperCamelChars {cs : List Char} (h : ∀ c ∈ cs, isBareChar c = true) :
    ∀ c ∈ upperCamelChars cs, c.isAlphanum = true :=
  isAlphanum_of_letters h
    (map_toLower_upperCamelChars fun c hc => isAscii_of_isBareChar (h c hc))

/-- Camel case of an identifier has letters and digits only. -/
theorem isAlphanum_lowerCamelChars {cs : List Char} (h : ∀ c ∈ cs, isBareChar c = true) :
    ∀ c ∈ lowerCamelChars cs, c.isAlphanum = true :=
  isAlphanum_of_letters h
    (map_toLower_lowerCamelChars fun c hc => isAscii_of_isBareChar (h c hc))

section
variable {s : String} (h : ∀ c ∈ s.toList, isBareChar c = true)
include h

/-- So it can be in an identifier. -/
theorem isBareChar_lowerCamel : ∀ c ∈ (lowerCamel s).toList, isBareChar c = true := by
  rw [lowerCamel, String.toList_ofList]
  exact fun c hc => isBareChar_of_isAlphanum (isAlphanum_lowerCamelChars h c hc)

/-- It has no underscores. -/
theorem underscore_not_mem_lowerCamel : '_' ∉ (lowerCamel s).toList := by
  have hascii : ∀ c ∈ s.toList, Text.isAscii c = true := fun c hc => isAscii_of_isBareChar (h c hc)
  rw [lowerCamel, String.toList_ofList]
  exact underscore_not_mem_of_letters hascii (map_toLower_lowerCamelChars hascii)

end

/-- Identifiers that are the same in camel case have the same letters. -/
theorem letters_eq_of_lowerCamel_eq {s u : String} (hs : ∀ c ∈ s.toList, isBareChar c = true)
    (hu : ∀ c ∈ u.toList, isBareChar c = true) (h : lowerCamel s = lowerCamel u) :
    letters s.toList = letters u.toList := by
  have hchars := congrArg (fun s => letters s.toList) h
  simp only [lowerCamel, String.toList_ofList] at hchars
  rwa [letters_lowerCamelChars fun c hc => isAscii_of_isBareChar (hs c hc),
    letters_lowerCamelChars fun c hc => isAscii_of_isBareChar (hu c hc)] at hchars

end Swift

/-! ## Values of an enum -/

namespace EnumCase

variable {enum value : String} (h : Swift.isBare value = true)
include h

/-- What is left of an identifier without the enum's prefix has characters of the identifier. -/
theorem isBareChar_stripped (enum : List Char) :
    ∀ c ∈ stripped enum value.toList, Swift.isBareChar c = true := by
  have hvalue : ∀ c ∈ value.toList, Swift.isBareChar c = true := fun c hc =>
    Swift.isBareChar_of_mem h hc
  unfold stripped
  dsimp only
  split
  · next hleft =>
    have hbare := (Bool.and_eq_true_iff.1 hleft).2
    intro c hc
    exact Swift.isBareChar_of_mem (s := String.ofList _) (by simpa [Swift.isBare] using hbare)
      (by simpa using hc)
  · exact hvalue

/-- The name of a case in camel case is bare. -/
theorem isBareChar_camel (enum : List Char) :
    ∀ c ∈ (Swift.lowerCamel (String.ofList (stripped enum value.toList))).toList,
      Swift.isBareChar c = true :=
  Swift.isBareChar_lowerCamel (by simpa using isBareChar_stripped h enum)

/-- A case name is made of bare characters and backticks. -/
theorem not_mem_name (enum : String) {c : Char} (hbare : Swift.isBareChar c = false)
    (hquote : c ≠ '\x60') : c ∉ (name enum value).toList :=
  Swift.not_mem_quoteReserved_of_chars (isBareChar_camel h enum.toList) hbare hquote

end EnumCase

/-- Values whose names have the same case have the same letters without the enum's prefix. -/
theorem EnumCase.letters_of_name_eq {enum value value' : String} (h : Swift.isBare value = true)
    (h' : Swift.isBare value' = true) (hname : name enum value = name enum value') :
    Swift.letters (stripped enum.toList value.toList) =
      Swift.letters (stripped enum.toList value'.toList) := by
  have hcamel := Swift.quoteReserved_inj_of_chars (isBareChar_camel h _) (isBareChar_camel h' _)
    hname
  have hletters := Swift.letters_eq_of_lowerCamel_eq
    (by simpa using isBareChar_stripped h enum.toList)
    (by simpa using isBareChar_stripped h' enum.toList) hcamel
  rwa [String.toList_ofList, String.toList_ofList] at hletters

end SchemaToSwift
