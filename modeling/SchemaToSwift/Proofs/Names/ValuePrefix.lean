import SchemaToSwift.Proofs.Names.Members

/-!
# The prefix of an enum's values

An enum whose name is made of capitalized words has values that begin with these words in upper
case, each with an underscore behind it. Spacing the name out finds exactly the words
(`spaced_flatten`), and upper case keeps them apart (`valuePrefix_join`). A value of ASCII
characters that begins with the prefix in any case loses that many characters if an identifier is
left, and every other value stays as it is (`name_join`).
-/

namespace SchemaToSwift.EnumCase

/-! ## Words of a name -/

/-- A word that begins with a capital and a small letter of the alphabet from A to Z, and goes on
with small letters and digits of any script. -/
def IsCapitalized (w : List Char) : Prop :=
  ∃ c d rest, w = c :: d :: rest ∧ c.isUpper = true ∧ d.isLower = true ∧
    ∀ e ∈ rest, Text.isLower e = true ∨ Text.isDigit e = true

/-- The prefix of the values of an enum that is named by words: the words in upper case, joined by
underscores and ended by one. -/
def wordsPrefix (words : List String) : String := "_".intercalate (words.map Text.upper) ++ "_"

/-- The value without as many characters at its start as the text has. -/
def dropPrefix (start value : String) : String := String.ofList (value.toList.drop start.length)

theorem isUpper_eq_false_of_isLower {c : Char} (h : c.isLower = true) : c.isUpper = false := by
  rw [Swift.isLower_iff] at h
  rw [Bool.eq_false_iff, ne_eq, Swift.isUpper_iff]
  omega

/-- A small letter or a digit of any script is none of the capitals from A to Z. -/
theorem isUpper_eq_false_of_tail {c : Char} (h : Text.isLower c = true ∨ Text.isDigit c = true) :
    c.isUpper = false := by
  rw [Bool.eq_false_iff]
  intro hupper
  have hbounds := Swift.isUpper_iff.1 hupper
  have hascii : c.toNat < 128 := by omega
  rw [Text.isLower, Text.isAscii, decide_eq_true hascii, Text.isDigit, if_pos hascii] at h
  rcases h with hlower | hdigit
  · rw [if_pos rfl, Swift.isLower_iff] at hlower
    omega
  · rw [Swift.isDigit_iff] at hdigit
    omega

theorem isCapitalized_of_all {c d : Char} {rest : List Char}
    (h : (c.isUpper && d.isLower && rest.all fun e => Text.isLower e || Text.isDigit e) = true) :
    IsCapitalized (c :: d :: rest) := by
  simp only [Bool.and_eq_true, List.all_eq_true, Bool.or_eq_true] at h
  exact ⟨c, d, rest, rfl, h.1.1, h.1.2, h.2⟩

/-! ## Spacing a name out -/

/-- No underscore comes before a character that is no capital. -/
theorem spaced_cons {c : Char} (hc : c.isUpper = false) (atStart : Bool) (rest : List Char) :
    spaced atStart (c :: rest) = c :: spaced false rest := by
  cases rest with
  | nil => rfl
  | cons d rest => rw [spaced, hc, if_neg (by simp)]

theorem spaced_append {xs : List Char} (hxs : ∀ c ∈ xs, c.isUpper = false) (rest : List Char) :
    spaced false (xs ++ rest) = xs ++ spaced false rest := by
  induction xs with
  | nil => rfl
  | cons c xs ih =>
    obtain ⟨hc, hxs⟩ := List.forall_mem_cons.1 hxs
    rw [List.cons_append, spaced_cons hc, ih hxs, List.cons_append]

/-- A capitalized word has an underscore before it, unless it comes first, and none inside. -/
theorem spaced_word {w : List Char} (h : IsCapitalized w) (atStart : Bool) (rest : List Char) :
    spaced atStart (w ++ rest) = (if atStart then [] else ['_']) ++ w ++ spaced false rest := by
  obtain ⟨c, d, tail, rfl, hc, hd, htail⟩ := h
  have hsmall : ∀ e ∈ d :: tail, e.isUpper = false :=
    List.forall_mem_cons.2 ⟨isUpper_eq_false_of_isLower hd,
      fun e he => isUpper_eq_false_of_tail (htail e he)⟩
  have hinside := spaced_append hsmall rest
  rw [List.cons_append] at hinside
  rw [List.cons_append, List.cons_append, spaced, hc, hd, hinside]
  cases atStart with
  | true => simp
  | false => simp

/-- The words of a name are told apart by underscores before all but the first of them. -/
theorem spaced_flatten {ws : List (List Char)} (h : ∀ w ∈ ws, IsCapitalized w) :
    spaced true ws.flatten = ['_'].intercalate ws := by
  have hrest : ∀ {vs : List (List Char)}, (∀ w ∈ vs, IsCapitalized w) →
      spaced false vs.flatten = vs.flatMap ('_' :: ·) := by
    intro vs hvs
    induction vs with
    | nil => rfl
    | cons w vs ih =>
      obtain ⟨hw, hvs⟩ := List.forall_mem_cons.1 hvs
      rw [List.flatten_cons, spaced_word hw, ih hvs, List.flatMap_cons]
      rfl
  cases ws with
  | nil => rfl
  | cons w ws =>
    obtain ⟨hw, hws⟩ := List.forall_mem_cons.1 h
    rw [List.flatten_cons, spaced_word hw, hrest hws]
    have hjoined := Text.cons_intercalate '_' (List.cons_ne_nil w ws)
    rw [List.flatMap_cons, List.cons_append] at hjoined
    exact (List.cons.inj hjoined).2.symm

/-- Upper case keeps what is joined by underscores apart. -/
theorem upperChars_intercalate (ws : List (List Char)) :
    Text.upperChars (['_'].intercalate ws) = ['_'].intercalate (ws.map Text.upperChars) := by
  induction ws with
  | nil => rfl
  | cons w rest ih =>
    cases rest with
    | nil => simp
    | cons v rest =>
      rw [List.intercalate_cons_cons, Text.upperChars, List.flatMap_append, List.flatMap_append]
      rw [Text.upperChars] at ih
      rw [ih]
      exact List.intercalate_cons_cons.symm

/-- The prefix of the values of an enum is made of the words of its name. -/
theorem valuePrefix_join {words : List String} (h : ∀ w ∈ words, IsCapitalized w.toList) :
    valuePrefix (String.join words).toList = (wordsPrefix words).toList := by
  have hwords : ∀ w ∈ words.map String.toList, IsCapitalized w := by
    intro w hw
    obtain ⟨word, hword, rfl⟩ := List.mem_map.1 hw
    exact h word hword
  have hupper : (words.map Text.upper).map String.toList =
      (words.map String.toList).map Text.upperChars := by
    rw [List.map_map, List.map_map]
    exact List.map_congr_left fun w _ => String.toList_ofList
  rw [valuePrefix, String.toList_join, List.flatMap_def, spaced_flatten hwords,
    upperChars_intercalate, wordsPrefix, String.toList_append, String.toList_intercalate, hupper]
  rfl

/-! ## Names of cases -/

/-- A value of ASCII characters loses the characters of the prefix as they are counted. -/
theorem stripped_ascii {enum value : List Char} (h : ∀ c ∈ value, Text.isAscii c = true) :
    stripped enum value =
      if (valuePrefix enum).isPrefixOf (Text.upperChars value) &&
          Swift.isBareChars (value.drop (valuePrefix enum).length)
      then value.drop (valuePrefix enum).length else value := by
  by_cases hbegins : (valuePrefix enum).isPrefixOf (Text.upperChars value) = true
  · have hnoMark {cs : List Char} (hcs : ∀ c ∈ cs, Text.isAscii c = true) : Text.mark ∉ cs :=
      fun hmark => absurd (hcs _ hmark) (by decide)
    have hstart : ∀ c ∈ valuePrefix enum, Text.isAscii c = true := by
      intro c hc
      have hmem := (List.isPrefixOf_iff_prefix.1 hbegins).subset hc
      rw [Text.upperChars_ascii h] at hmem
      obtain ⟨d, hd, rfl⟩ := List.mem_map.1 hmem
      exact Text.forall_ascii (P := fun d => Text.isAscii d.toUpper = true) (by decide) (h d hd)
    have hleft := hnoMark fun c hc => h c (List.mem_of_mem_drop (i := (valuePrefix enum).length) hc)
    rw [stripped, Text.points_of_noMark (hnoMark h), Text.points_of_noMark (hnoMark hstart),
      List.length_map, ← List.map_drop, Text.flatMap_chars_of_noMark hleft]
  · rw [stripped, Bool.eq_false_iff.2 hbegins]
    rfl

/-- The case of a value of ASCII characters, in an enum that is named by words, is named after what
is left of the value without the words in any case, if that is an identifier, and after the whole
value otherwise. -/
theorem name_join {words : List String} (hwords : ∀ w ∈ words, IsCapitalized w.toList)
    {value : String} (hvalue : ∀ c ∈ value.toList, Text.isAscii c = true) :
    ((wordsPrefix words).toList <+: (Text.upper value).toList →
      Swift.isBare (dropPrefix (wordsPrefix words) value) = true →
        name (String.join words) value =
          Swift.quoteReserved (Swift.lowerCamel (dropPrefix (wordsPrefix words) value))) ∧
    (¬ ((wordsPrefix words).toList <+: (Text.upper value).toList ∧
        Swift.isBare (dropPrefix (wordsPrefix words) value) = true) →
      name (String.join words) value = Swift.quoteReserved (Swift.lowerCamel value)) := by
  have hupper : (Text.upper value).toList = Text.upperChars value.toList := String.toList_ofList
  have hleft : Swift.isBareChars (value.toList.drop (wordsPrefix words).toList.length) =
      Swift.isBare (dropPrefix (wordsPrefix words) value) := by
    rw [Swift.isBare, dropPrefix, String.toList_ofList, String.length_toList]
  rw [name, stripped_ascii hvalue, valuePrefix_join hwords, hleft, hupper,
    ← List.isPrefixOf_iff_prefix]
  refine ⟨fun hbegins hbare => ?_, fun hother => ?_⟩
  · rw [hbegins, hbare, dropPrefix, String.length_toList]
    rfl
  · rw [if_neg (by rwa [Bool.and_eq_true]), String.ofList_toList]

/-- The words come off in any case, but not where no identifier would be left, and not where an
underscore is missing between them. -/
theorem name_join_digit :
    name "Http2FooBar" "Http2_foo_BAR_DEFAULT" = "\x60default\x60" ∧
      name "Http2FooBar" "HTTP2_FOO_BAR_3" = "http2FooBar3" ∧
      name "Http2FooBar" "HTTP2_FOOBAR_X" = "http2FoobarX" := by
  have hwords : ∀ w ∈ ["Http2", "Foo", "Bar"], IsCapitalized w.toList := by
    intro w hw
    simp only [List.mem_cons, List.not_mem_nil, or_false] at hw
    rcases hw with rfl | rfl | rfl
    all_goals exact isCapitalized_of_all (by decide)
  have hascii {value : String} (h : value.toList.all Text.isAscii = true) :
      ∀ c ∈ value.toList, Text.isAscii c = true := List.all_eq_true.1 h
  obtain ⟨hleft, -⟩ := name_join hwords
    (hascii (by decide : "Http2_foo_BAR_DEFAULT".toList.all Text.isAscii = true))
  obtain ⟨-, hdigit⟩ := name_join hwords
    (hascii (by decide : "HTTP2_FOO_BAR_3".toList.all Text.isAscii = true))
  obtain ⟨-, hother⟩ := name_join hwords
    (hascii (by decide : "HTTP2_FOOBAR_X".toList.all Text.isAscii = true))
  exact ⟨(hleft (by decide) (by decide)).trans (by decide),
    (hdigit (by decide)).trans (by decide), (hother (by decide)).trans (by decide)⟩

end SchemaToSwift.EnumCase
