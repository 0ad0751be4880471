import Mathlib.Data.List.TakeWhile
import SchemaToSwift.Proofs.Swift.Letters
import SchemaToSwift.Proofs.Text.Dotted

/-!
# Snake case in camel case

Words in lower case, joined by underscores, are the words of the name (`words_intercalate`), and so
are the same words in upper case, which are put in lower case first (`upperCamelChars_upperChars`).
Lower camel case takes the leading capitals of the joined words. That is the capital of the first
word, and if the first word is a single letter, it is those of all words that are single letters and
come before any longer one (`leadingCapitals_append`). So the words but the first one keep their
capitals exactly if the first two of them are not both single letters (`lowerCamel_intercalate`).
-/

namespace SchemaToSwift.Swift

/-! ## Words -/

/-- A character of a word after its first one: an ASCII letter in lower case, or a digit. -/
def isWordChar (c : Char) : Bool := c.isLower || c.isDigit

/-- A word in lower case, which begins with a letter. -/
def IsWord (w : List Char) : Prop :=
  ∃ c rest, w = c :: rest ∧ c.isLower = true ∧ ∀ d ∈ rest, isWordChar d = true

/-- Words are ASCII. -/
theorem isAscii_of_isWordChar {c : Char} (h : isWordChar c = true) : Text.isAscii c = true := by
  rw [isWordChar, Bool.or_eq_true, isLower_iff, isDigit_iff] at h
  rw [Text.isAscii, decide_eq_true_eq]
  omega

/-- What is true of the word characters below 128 is true of all of them. -/
theorem forall_isWordChar {P : Char → Prop}
    (hP : ∀ n < 128, isWordChar (Char.ofNat n) = true → P (Char.ofNat n)) {c : Char}
    (h : isWordChar c = true) : P c :=
  Text.forall_ascii (P := fun c => isWordChar c = true → P c) hP (isAscii_of_isWordChar h) h

theorem isWordChar_of_isLower {c : Char} (h : c.isLower = true) : isWordChar c = true := by
  rw [isWordChar, h, Bool.true_or]

/-- The capital of a letter is one. -/
theorem isUpper_toUpper_of_isLower {c : Char} (h : c.isLower = true) :
    Text.isUpper c.toUpper = true :=
  forall_isWordChar (P := fun c => c.isLower = true → Text.isUpper c.toUpper = true) (by decide)
    (isWordChar_of_isLower h) h

section
variable {w : List Char} (h : IsWord w)
include h

/-- All characters of a word are small letters and digits. -/
theorem IsWord.isWordChar : ∀ c ∈ w, isWordChar c = true := by
  obtain ⟨c, rest, rfl, hc, hrest⟩ := h
  exact List.forall_mem_cons.2 ⟨isWordChar_of_isLower hc, hrest⟩

theorem IsWord.ne_nil : w ≠ [] := by
  obtain ⟨c, rest, rfl, -⟩ := h
  exact List.cons_ne_nil c rest

/-- A word has no underscore. -/
theorem IsWord.underscore_not_mem : '_' ∉ w := fun hmem =>
  absurd (h.isWordChar _ hmem) (by decide)

/-- A word in upper case is the word in lower case again. -/
theorem IsWord.lowerChars_map_toUpper : Text.lowerChars (w.map Char.toUpper) = w := by
  have hascii : ∀ c ∈ w.map Char.toUpper, Text.isAscii c = true := by
    intro c hc
    obtain ⟨d, hd, rfl⟩ := List.mem_map.1 hc
    exact forall_isWordChar (P := fun c => Text.isAscii c.toUpper = true) (by decide)
      (h.isWordChar d hd)
  rw [Text.lowerChars_ascii hascii, List.map_map]
  refine (List.map_congr_left fun c hc => ?_).trans (List.map_id w)
  exact forall_isWordChar (P := fun c => c.toUpper.toLower = c) (by decide) (h.isWordChar c hc)

end

/-! ## Joined words -/

/-- Words without underscores are the words of the name that they make. -/
theorem words_intercalate {ws : List (List Char)} (hne : ws ≠ []) (hnil : ∀ w ∈ ws, w ≠ [])
    (h : ∀ w ∈ ws, '_' ∉ w) : words (['_'].intercalate ws) = ws := by
  rw [words, Text.splitAt_intercalate hne h, List.filter_eq_self]
  simpa using hnil

theorem map_intercalate {α β : Type} (f : α → β) (sep : List α) (xs : List (List α)) :
    (sep.intercalate xs).map f = (sep.map f).intercalate (xs.map (List.map f)) := by
  induction xs with
  | nil => rfl
  | cons x rest ih =>
    cases rest with
    | nil => simp
    | cons y rest =>
      rw [List.intercalate_cons_cons, List.map_append, List.map_append, ih]
      exact List.intercalate_cons_cons.symm

section
variable {ws : List (List Char)} (hne : ws ≠ []) (h : ∀ w ∈ ws, IsWord w)
include hne h

/-- Words put together with underscores are found again. -/
theorem words_joined : words (['_'].intercalate ws) = ws :=
  words_intercalate hne (fun w hw => (h w hw).ne_nil) fun w hw => (h w hw).underscore_not_mem

/-- A character of joined words is one of the words, or an underscore. -/
theorem mem_words_of_mem_joined {c : Char} (hc : c ∈ ['_'].intercalate ws) (hunderscore : c ≠ '_') :
    ∃ w ∈ ws, c ∈ w := by
  have hmem : c ∈ (['_'].intercalate ws).filter (· ≠ '_') :=
    List.mem_filter.2 ⟨hc, decide_eq_true hunderscore⟩
  rw [← flatten_words, words_joined hne h] at hmem
  exact List.mem_flatten.1 hmem

/-- There is a letter in lower case. -/
theorem exists_isLower : ∃ c ∈ ['_'].intercalate ws, c.isLower = true := by
  obtain ⟨w, hw⟩ := List.exists_mem_of_ne_nil ws hne
  obtain ⟨c, rest, rfl, hc, -⟩ := h w hw
  exact ⟨c, mem_of_mem_words ((words_joined hne h).symm ▸ hw) (.head _), hc⟩

/-- Words in lower case are joined as they are. -/
theorem upperCamelChars_joined :
    upperCamelChars (['_'].intercalate ws) = (ws.map capitalize).flatten := by
  have hlower : Text.allUpper (['_'].intercalate ws) = false := by
    obtain ⟨c, hc, hcase⟩ := exists_isLower hne h
    have hisLower : Text.isLower c = true :=
      forall_isWordChar (P := fun c => c.isLower = true → Text.isLower c = true) (by decide)
        (isWordChar_of_isLower hcase) hcase
    rw [Text.allUpper, Bool.and_eq_false_iff]
    exact .inr (List.all_eq_false.2 ⟨c, hc, by simp [hisLower]⟩)
  rw [upperCamelChars, hlower, words_joined hne h]
  rfl

/-- Words in upper case are joined as they are in lower case. -/
theorem upperCamelChars_upperChars :
    upperCamelChars (Text.upperChars (['_'].intercalate ws)) = (ws.map capitalize).flatten := by
  have hwordChar : ∀ c ∈ ['_'].intercalate ws, c = '_' ∨ isWordChar c = true := by
    intro c hc
    by_cases hunderscore : c = '_'
    · exact .inl hunderscore
    · obtain ⟨w, hw, hcw⟩ := mem_words_of_mem_joined hne h hc hunderscore
      exact .inr ((h w hw).isWordChar c hcw)
  have hascii : ∀ c ∈ ['_'].intercalate ws, Text.isAscii c = true := by
    intro c hc
    rcases hwordChar c hc with rfl | hword
    · decide
    · exact isAscii_of_isWordChar hword
  have hupper : Text.upperChars (['_'].intercalate ws) =
      ['_'].intercalate (ws.map (List.map Char.toUpper)) := by
    rw [Text.upperChars_ascii hascii, map_intercalate]
    rfl
  have hallUpper : Text.allUpper (Text.upperChars (['_'].intercalate ws)) = true := by
    rw [Text.upperChars_ascii hascii, Text.allUpper, Bool.and_eq_true, List.any_map, List.all_map,
      List.any_eq_true, List.all_eq_true]
    constructor
    · obtain ⟨c, hc, hcase⟩ := exists_isLower hne h
      exact ⟨c, hc, isUpper_toUpper_of_isLower hcase⟩
    · intro c hc
      rcases hwordChar c hc with rfl | hword
      · decide
      · exact forall_isWordChar (P := fun c =>
          (!Text.isLower c.toUpper && !Text.isTitle c.toUpper) = true) (by decide) hword
  have hwords : words (['_'].intercalate (ws.map (List.map Char.toUpper))) =
      ws.map (List.map Char.toUpper) := by
    refine words_intercalate (by simpa using hne) ?_ ?_
    · intro w hw
      obtain ⟨v, hv, rfl⟩ := List.mem_map.1 hw
      simpa using (h v hv).ne_nil
    · intro w hw hmem
      obtain ⟨v, hv, rfl⟩ := List.mem_map.1 hw
      obtain ⟨c, hc, hunderscore⟩ := List.mem_map.1 hmem
      exact absurd hunderscore (forall_isWordChar (P := fun c => c.toUpper ≠ '_') (by decide)
        ((h v hv).isWordChar c hc))
  have hlowered : (ws.map (List.map Char.toUpper)).map Text.lowerChars = ws := by
    rw [List.map_map]
    exact (List.map_congr_left fun w hw => (h w hw).lowerChars_map_toUpper).trans (List.map_id ws)
  rw [upperCamelChars, hallUpper, if_pos rfl, hupper, hwords, hlowered]

end

/-! ## Leading capitals -/

/-- Words without a single letter at the start: none, or a longer one that comes first. -/
inductive BeginsLong : List (List Char) → Prop
  | nil : BeginsLong []
  | cons {c d : Char} {w : List Char} {ws : List (List Char)} (hc : c.isLower = true)
    (hd : isWordChar d = true) : BeginsLong ((c :: d :: w) :: ws)

theorem capitalize_of_isLower {c : Char} (hc : c.isLower = true) (w : List Char) :
    capitalize (c :: w) = c.toUpper :: w := by
  rw [capitalize, Text.upperChar, if_pos (isAscii_of_isWordChar (isWordChar_of_isLower hc))]
  rfl

/-- Single letters are joined to their capitals. -/
theorem flatten_capitalize_singles {letters : List Char} (h : ∀ c ∈ letters, c.isLower = true) :
    ((letters.map ([·])).map capitalize).flatten = letters.map Char.toUpper := by
  induction letters with
  | nil => rfl
  | cons c rest ih =>
    obtain ⟨hc, hrest⟩ := List.forall_mem_cons.1 h
    rw [List.map_cons, List.map_cons, List.flatten_cons, ih hrest, capitalize_of_isLower hc]
    rfl

/-- Words that begin with a longer one begin with one capital, and do not end with it. -/
theorem BeginsLong.takeWhile {rest : List (List Char)} (h : BeginsLong rest) :
    rest = [] ∨ ((rest.map capitalize).flatten.takeWhile Text.isUpper).length = 1 ∧
      1 < (rest.map capitalize).flatten.length := by
  cases h with
  | nil => exact .inl rfl
  | @cons c d w ws hc hd =>
    have hsmall : Text.isUpper d = false :=
      forall_isWordChar (P := fun c => Text.isUpper c = false) (by decide) hd
    have htail : (((c :: d :: w) :: ws).map capitalize).flatten =
        c.toUpper :: d :: (w ++ (ws.map capitalize).flatten) := by
      rw [List.map_cons, List.flatten_cons, capitalize_of_isLower hc]
      rfl
    rw [htail, List.takeWhile_cons_of_pos (isUpper_toUpper_of_isLower hc),
      List.takeWhile_cons_of_neg (by simp [hsmall])]
    exact .inr ⟨rfl, by simp⟩

/-- The leading capitals are those of the single letters, or else that of the first word. -/
theorem leadingCapitals_append {letters : List Char} {rest : List (List Char)}
    (hne : letters.map ([·]) ++ rest ≠ []) (hletters : ∀ c ∈ letters, c.isLower = true)
    (hrest : BeginsLong rest) :
    leadingCapitals (letters.map Char.toUpper ++ (rest.map capitalize).flatten) =
      max 1 letters.length := by
  have hcapitals : ∀ c ∈ letters.map Char.toUpper, Text.isUpper c = true := by
    intro c hc
    obtain ⟨d, hd, rfl⟩ := List.mem_map.1 hc
    exact isUpper_toUpper_of_isLower (hletters d hd)
  rw [leadingCapitals, List.takeWhile_append_of_pos hcapitals, List.length_append,
    List.length_append, List.length_map]
  rcases hrest.takeWhile with rfl | ⟨hone, hlonger⟩
  · have hpos : 0 < letters.length := List.length_pos_iff.2 (by simpa using hne)
    simp only [List.map_nil, List.flatten_nil, List.takeWhile_nil, List.length_nil, Nat.add_zero,
      Nat.lt_irrefl, and_false, if_false]
    omega
  · rw [hone]
    split <;> omega

/-! ## The words of a name -/

/-- The word with its first character in upper case. -/
def withCapital (w : String) : String :=
  match w.toList with
  | [] => ""
  | c :: rest => String.ofList (c.toUpper :: rest)

/-- The words put together, those after the first ones with a capital. -/
def camelFrom (n : Nat) (words : List String) : String :=
  String.join (words.take n) ++ String.join ((words.drop n).map withCapital)

/-- How many words at the start are single letters. -/
def singles (words : List String) : Nat := (words.takeWhile (·.length == 1)).length

theorem toList_withCapital {w : String} (h : IsWord w.toList) :
    (withCapital w).toList = capitalize w.toList := by
  obtain ⟨c, rest, hw, hc, -⟩ := h
  rw [withCapital, hw, capitalize_of_isLower hc]
  exact String.toList_ofList

section
variable {words : List String} (h : ∀ w ∈ words, IsWord w.toList)
include h

/-- In camel case the words from a place on have capitals. -/
theorem toList_camelFrom (n : Nat) : (camelFrom n words).toList =
    ((words.map String.toList).take n).flatten ++
      (((words.map String.toList).drop n).map capitalize).flatten := by
  have hcapitals : ((words.drop n).map withCapital).map String.toList =
      ((words.map String.toList).drop n).map capitalize := by
    rw [List.map_map, ← List.map_drop, List.map_map]
    exact List.map_congr_left fun w hw => toList_withCapital (h w (List.mem_of_mem_drop hw))
  rw [camelFrom, String.toList_append, String.toList_join, String.toList_join, List.flatMap_def,
    List.flatMap_def, hcapitals, List.map_take]

/-- Words are single letters and then words that do not begin with one. -/
theorem exists_singles : ∃ letters : List Char, ∃ rest,
    words.map String.toList = letters.map ([·]) ++ rest ∧ singles words = letters.length ∧
      (∀ c ∈ letters, c.isLower = true) ∧ BeginsLong rest := by
  induction words with
  | nil => exact ⟨[], [], rfl, rfl, List.forall_mem_nil _, .nil⟩
  | cons w words ih =>
    obtain ⟨hw, hwords⟩ := List.forall_mem_cons.1 h
    obtain ⟨c, more, hchars, hc, hmore⟩ := hw
    have hlength : w.length = more.length + 1 := by rw [← String.length_toList, hchars]; rfl
    rw [List.map_cons, hchars, singles, List.takeWhile_cons]
    cases more with
    | nil =>
      obtain ⟨letters, rest, hrest, hsingles, hletters, hlong⟩ := ih hwords
      refine ⟨c :: letters, rest, ?_, ?_, List.forall_mem_cons.2 ⟨hc, hletters⟩, hlong⟩
      · rw [hrest]
        rfl
      · rw [hlength, List.length_cons, ← hsingles]
        rfl
    | cons d w =>
      rw [hlength]
      exact ⟨[], _, rfl, rfl, List.forall_mem_nil _, .cons hc (hmore d (.head _))⟩

/-- What a name comes to in lower camel case if it comes to joined words in upper camel case. -/
theorem lowerCamelChars_eq (hne : words ≠ []) {cs : List Char}
    (hcs : upperCamelChars cs = ((words.map String.toList).map capitalize).flatten) :
    lowerCamelChars cs = (camelFrom (max 1 (singles words)) words).toList := by
  obtain ⟨letters, rest, hwords, hsingles, hletters, hrest⟩ := exists_singles h
  have hjoined : upperCamelChars cs =
      letters.map Char.toUpper ++ (rest.map capitalize).flatten := by
    rw [hcs, hwords, List.map_append, List.flatten_append, flatten_capitalize_singles hletters]
  have hnonempty : letters.map ([·]) ++ rest ≠ [] := by
    rw [← hwords]
    simpa using hne
  have hleading := leadingCapitals_append hnonempty hletters hrest
  rw [toList_camelFrom h, hwords, hsingles, lowerCamelChars, hjoined, hleading]
  cases letters with
  | nil =>
    cases hrest with
    | nil => exact absurd rfl hnonempty
    | @cons c d w ws hc hd =>
      have hlower : Text.lowerChars [c.toUpper] = [c] :=
        IsWord.lowerChars_map_toUpper (w := [c]) ⟨c, [], rfl, hc, List.forall_mem_nil _⟩
      simp [capitalize_of_isLower hc, hlower]
  | cons c more =>
    have hmax : max 1 (c :: more).length = (c :: more).length := by simp
    have hword : IsWord (c :: more) :=
      ⟨c, more, rfl, hletters c (.head _), fun d hd =>
        isWordChar_of_isLower (hletters d (.tail _ hd))⟩
    have hflatten : ((c :: more).map ([·])).flatten = c :: more := by
      rw [← List.flatMap_def, List.flatMap_singleton']
    rw [hmax, List.take_left' (by simp), List.drop_left' (by simp), hword.lowerChars_map_toUpper,
      List.take_left' (by simp), List.drop_left' (by simp), hflatten]

/-- Two single letters at the start make a difference. -/
theorem camelFrom_one_iff :
    camelFrom (max 1 (singles words)) words = camelFrom 1 words ↔ singles words ≤ 1 := by
  constructor
  · intro heq
    by_contra hmany
    have hchars := congrArg String.toList heq
    obtain ⟨letters, rest, hwords, hsingles, hletters, -⟩ := exists_singles h
    rw [toList_camelFrom h, toList_camelFrom h, hwords, hsingles] at hchars
    match letters, hletters with
    | [], _ | [c], _ => simp [hsingles] at hmany
    | c :: d :: more, hletters =>
      have hd : d.isLower = true := hletters d (by simp)
      obtain ⟨hsame, -⟩ : d = d.toUpper ∧ _ := by
        simpa [capitalize_of_isLower hd] using hchars
      have hsmall : Text.isUpper d = false :=
        forall_isWordChar (P := fun c => Text.isUpper c = false) (by decide)
          (isWordChar_of_isLower hd)
      rw [hsame, isUpper_toUpper_of_isLower hd] at hsmall
      cases hsmall
  · intro hfew
    rw [Nat.max_eq_left hfew]

end

/-- Words in lower case, each beginning with a letter, that are joined by underscores come to the
words put together, with capitals but for the first word and for the words that are single letters
and come before any longer one. In upper case they come to the same. So all words but the first one
have a capital exactly if the first two of them are not both single letters. -/
theorem lowerCamel_intercalate {first : String} {rest : List String}
    (h : ∀ w ∈ first :: rest, IsWord w.toList) :
    lowerCamel ("_".intercalate (first :: rest)) =
        camelFrom (max 1 (singles (first :: rest))) (first :: rest) ∧
      lowerCamel (Text.upper ("_".intercalate (first :: rest))) =
        lowerCamel ("_".intercalate (first :: rest)) ∧
      (lowerCamel ("_".intercalate (first :: rest)) =
          first ++ String.join (rest.map withCapital) ↔ singles (first :: rest) ≤ 1) := by
  have hne : (first :: rest).map String.toList ≠ [] := List.cons_ne_nil _ _
  have hwords : ∀ w ∈ (first :: rest).map String.toList, IsWord w := by
    intro w hw
    obtain ⟨word, hword, rfl⟩ := List.mem_map.1 hw
    exact h word hword
  have hchars : ("_".intercalate (first :: rest)).toList =
      ['_'].intercalate ((first :: rest).map String.toList) := String.toList_intercalate
  have hlower : lowerCamel ("_".intercalate (first :: rest)) =
      camelFrom (max 1 (singles (first :: rest))) (first :: rest) := by
    rw [lowerCamel, hchars,
      lowerCamelChars_eq h (List.cons_ne_nil _ _) (upperCamelChars_joined hne hwords),
      String.ofList_toList]
  have hupper : lowerCamel (Text.upper ("_".intercalate (first :: rest))) =
      camelFrom (max 1 (singles (first :: rest))) (first :: rest) := by
    rw [lowerCamel, Text.upper, String.toList_ofList, hchars,
      lowerCamelChars_eq h (List.cons_ne_nil _ _) (upperCamelChars_upperChars hne hwords),
      String.ofList_toList]
  have hone : first ++ String.join (rest.map withCapital) = camelFrom 1 (first :: rest) := by
    simp [camelFrom]
  refine ⟨hlower, hupper.trans hlower.symm, ?_⟩
  rw [hlower, hone, camelFrom_one_iff h]

/-- Two single letters lose the capital between them. -/
theorem lowerCamel_intercalate_singles :
    lowerCamel "a_b" = "ab" ∧ lowerCamel "A_B" = lowerCamel "a_b" ∧ lowerCamel "a_b" ≠ "aB" := by
  have hwords : ∀ w ∈ ["a", "b"], IsWord w.toList := by
    intro w hw
    rcases List.mem_pair.1 hw with rfl | rfl
    · exact ⟨'a', [], rfl, by decide, List.forall_mem_nil _⟩
    · exact ⟨'b', [], rfl, by decide, List.forall_mem_nil _⟩
  obtain ⟨hlower, hupper, hcapitals⟩ := lowerCamel_intercalate hwords
  exact ⟨hlower, hupper, fun heq => absurd (hcapitals.1 heq) (by decide)⟩

end SchemaToSwift.Swift
