import SchemaToSwift.Proofs.Swift.Letters
import SchemaToSwift.Proofs.Text.Point

/-!
# Legal names of properties and cases

Properties and enum cases have names in camel case, put between backticks where they are reserved.
Camel case drops underscores, so it makes a bare identifier exactly of a name whose first other
character is a letter (`Swift.isBare_lowerCamel_iff`): an underscore that a digit follows keeps a
name legal in the schema, but not its camel case. The names of cases lose the enum's prefix before
that, if an identifier is left (`isComponent_memberNames`).
-/

namespace SchemaToSwift

namespace Swift

/-- The first character of the name but for its underscores is a letter. -/
def beginsWithLetter (cs : List Char) : Bool := (cs.find? (· ≠ '_')).any Char.isAlpha

/-- Letters and digits make up a bare identifier exactly if the first of them is a letter. -/
theorem isBareChars_of_isAlphanum {cs : List Char} (h : ∀ c ∈ cs, c.isAlphanum = true) :
    isBareChars cs = cs.head?.any Char.isAlpha := by
  rw [isBareChars_eq fun c hc => isBareChar_of_isAlphanum (h c hc)]
  cases cs with
  | nil => rfl
  | cons c rest =>
    have hunderscore : (c == '_') = false := by
      rw [beq_eq_false_iff_ne]
      rintro rfl
      exact absurd (h _ (.head _)) (by decide)
    simp [startsBare, hunderscore]

section
variable {cs : List Char} (h : ∀ c ∈ cs, Text.isAscii c = true)
include h

/-- The case of the first letter does not matter. -/
theorem any_isAlpha_head?_letters :
    (letters cs).head?.any Char.isAlpha = beginsWithLetter cs := by
  rw [letters, List.head?_map, List.head?_filter, beginsWithLetter]
  cases hfind : cs.find? (· ≠ '_') with
  | none => rfl
  | some c =>
    exact Text.forall_ascii (P := fun c => c.toLower.isAlpha = c.isAlpha) (by decide)
      (h c (List.mem_of_find?_eq_some hfind))

end

/-- A name of bare characters is a bare identifier in camel case exactly if its first character but
for the underscores is a letter. -/
theorem isBare_lowerCamel_iff {s : String} (h : ∀ c ∈ s.toList, isBareChar c = true) :
    isBare (lowerCamel s) = true ↔ beginsWithLetter s.toList = true := by
  have hascii : ∀ c ∈ s.toList, Text.isAscii c = true := fun c hc => isAscii_of_isBareChar (h c hc)
  have hcamel := isAlphanum_lowerCamelChars h
  have hunderscore := underscore_not_mem_lowerCamel h
  rw [lowerCamel, String.toList_ofList] at hunderscore
  -- camel case leaves no underscore, so it begins with the first character that is none
  have hfirst : beginsWithLetter (lowerCamelChars s.toList) =
      (lowerCamelChars s.toList).head?.any Char.isAlpha := by
    rw [beginsWithLetter, ← List.head?_filter, List.filter_eq_self.2]
    exact fun c hc => decide_eq_true (ne_of_mem_of_not_mem hc hunderscore)
  rw [isBare, lowerCamel, String.toList_ofList, isBareChars_of_isAlphanum hcamel, ← hfirst,
    ← any_isAlpha_head?_letters (isAscii_of_isAlphanum hcamel), letters_lowerCamelChars hascii,
    any_isAlpha_head?_letters hascii]

theorem mark_not_mem_of_isBareChar {cs : List Char} (h : ∀ c ∈ cs, isBareChar c = true) :
    Text.mark ∉ cs := fun hmark => absurd (h _ hmark) (by decide)

theorem isBare_of_mem_reservedWords : ∀ word ∈ reservedWords, isBare word = true := by decide

/-- Quoting makes a component of an identifier, and of nothing else. -/
theorem isComponent_quoteReserved_iff {s : String} (h : ∀ c ∈ s.toList, isBareChar c = true) :
    IsComponent (quoteReserved s) ↔ isBare s = true := by
  refine ⟨fun hcomponent => ?_, isComponent_quoteReserved⟩
  by_cases hmem : s ∈ reservedWords
  · exact isBare_of_mem_reservedWords s hmem
  · rw [quoteReserved_of_not_mem hmem] at hcomponent
    rcases hcomponent with ⟨hbare, -⟩ | ⟨word, -, heq⟩
    · exact hbare
    · exact absurd heq (ne_backticked h)

/-- A quoted name in camel case. -/
theorem isComponent_quoted_camel_iff {s : String} (h : ∀ c ∈ s.toList, isBareChar c = true) :
    IsComponent (quoteReserved (lowerCamel s)) ↔ beginsWithLetter s.toList = true := by
  rw [isComponent_quoteReserved_iff (isBareChar_lowerCamel h), isBare_lowerCamel_iff h]

end Swift

/-! ## The prefix of an enum's values -/

namespace EnumCase

variable {enum value : List Char}

/-- Spacing a name out adds underscores only. -/
theorem mem_spaced {c : Char} {atStart : Bool} {cs : List Char} (h : c ∈ spaced atStart cs) :
    c = '_' ∨ c ∈ cs := by
  induction atStart, cs using spaced.induct with
  | case1 atStart d e rest hcapital ih =>
    rw [spaced, if_pos hcapital, List.mem_cons, List.mem_cons] at h
    rcases h with rfl | rfl | h
    · exact .inl rfl
    · exact .inr (.head _)
    · exact (ih h).imp_right (.tail _)
  | case2 atStart d e rest hother ih =>
    rw [spaced, if_neg hother, List.mem_cons] at h
    rcases h with rfl | h
    · exact .inr (.head _)
    · exact (ih h).imp_right (.tail _)
  | case3 atStart cs hshort =>
    rw [spaced] at h
    · exact .inr h
    · exact hshort

/-- The prefix of the values of an enum is made of bare characters. -/
theorem isBareChar_valuePrefix (henum : ∀ c ∈ enum, Swift.isBareChar c = true) :
    ∀ c ∈ valuePrefix enum, Swift.isBareChar c = true := by
  have hspaced : ∀ c ∈ spaced true enum, Swift.isBareChar c = true := fun c hc =>
    (mem_spaced hc).elim (by rintro rfl; rfl) (henum c)
  intro c hc
  have hascii : ∀ d ∈ spaced true enum, Text.isAscii d = true := fun d hd =>
    Swift.isAscii_of_isBareChar (hspaced d hd)
  rw [valuePrefix, Text.upperChars_ascii hascii] at hc
  rcases List.mem_append.1 hc with hc | hc
  · obtain ⟨d, hd, rfl⟩ := List.mem_map.1 hc
    exact Swift.isBareChar_toUpper (hspaced d hd)
  · obtain rfl := List.mem_singleton.1 hc
    rfl

/-- The value begins with the enum's prefix, in any case, and an identifier is left. -/
def Leaves (enum value rest : List Char) : Prop :=
  ∃ before, value = before ++ rest ∧ Text.upperChars before = valuePrefix enum ∧
    Swift.isBareChars rest = true

section
variable (henum : ∀ c ∈ enum, Swift.isBareChar c = true)
include henum

/-- What is left of a value without as many characters as the enum's prefix has. -/
theorem left_eq (hvalue : ∀ c ∈ value, Swift.isBareChar c = true) :
    ((Text.points value).drop (Text.points (valuePrefix enum)).length).flatMap Text.Point.chars =
      value.drop (valuePrefix enum).length := by
  have hstart := Swift.mark_not_mem_of_isBareChar (isBareChar_valuePrefix henum)
  have hdrop : Text.mark ∉ value.drop (valuePrefix enum).length := fun hmark =>
    Swift.mark_not_mem_of_isBareChar hvalue (List.mem_of_mem_drop hmark)
  rw [Text.points_of_noMark (Swift.mark_not_mem_of_isBareChar hvalue), Text.points_of_noMark hstart,
    List.length_map, ← List.map_drop, Text.flatMap_chars_of_noMark hdrop]

theorem stripped_of_leaves {rest : List Char} (hvalue : ∀ c ∈ value, Swift.isBareChar c = true)
    (h : Leaves enum value rest) : stripped enum value = rest := by
  obtain ⟨before, rfl, hbefore, hrest⟩ := h
  have hlength : (valuePrefix enum).length = before.length := by
    rw [← hbefore, Text.upperChars_ascii fun c hc =>
      Swift.isAscii_of_isBareChar (hvalue c (List.mem_append_left _ hc)), List.length_map]
  have hbegins : (valuePrefix enum).isPrefixOf (Text.upperChars (before ++ rest)) = true := by
    rw [List.isPrefixOf_iff_prefix, ← hbefore, Text.upperChars, Text.upperChars,
      List.flatMap_append]
    exact List.prefix_append _ _
  rw [stripped, left_eq henum hvalue, hlength, List.drop_left, hbegins, hrest]
  rfl

theorem stripped_of_not_leaves (hvalue : ∀ c ∈ value, Swift.isBareChar c = true)
    (h : ∀ rest, ¬ Leaves enum value rest) : stripped enum value = value := by
  have hascii : ∀ c ∈ value, Text.isAscii c = true := fun c hc =>
    Swift.isAscii_of_isBareChar (hvalue c hc)
  rw [stripped, left_eq henum hvalue]
  refine if_neg fun hleft => h (value.drop (valuePrefix enum).length) ?_
  rw [Bool.and_eq_true, List.isPrefixOf_iff_prefix, Text.upperChars_ascii hascii] at hleft
  obtain ⟨hbegins, hrest⟩ := hleft
  refine ⟨_, (List.take_append_drop (valuePrefix enum).length value).symm, ?_, hrest⟩
  rw [Text.upperChars_ascii fun c hc => hascii c (List.mem_of_mem_take hc), List.map_take]
  exact (List.prefix_iff_eq_take.1 hbegins).symm

end

/-- The name of a case is legal exactly if the first character of what stripping leaves is a letter
but for the underscores. -/
theorem isComponent_name_iff {enum value : String} (hvalue : Swift.isBare value = true) :
    Swift.IsComponent (name enum value) ↔
      Swift.beginsWithLetter (stripped enum.toList value.toList) = true := by
  have hchars := isBareChar_stripped hvalue enum.toList
  rw [name, Swift.isComponent_quoted_camel_iff (by simpa using hchars), String.toList_ofList]

end EnumCase

/-- Properties and cases have legal names exactly if the first character of the name but for its
underscores is a letter. Of the name of a case this is asked without the prefix that the values of
the enum have, if an identifier is left without it. -/
theorem isComponent_memberNames (field enum value : String) (hfield : Swift.isBare field = true)
    (henum : Swift.isBare enum = true) (hvalue : Swift.isBare value = true) :
    (Swift.IsComponent (propertyName field) ↔ Swift.beginsWithLetter field.toList = true) ∧
    (∀ rest, EnumCase.Leaves enum.toList value.toList rest →
      (Swift.IsComponent (EnumCase.name enum value) ↔ Swift.beginsWithLetter rest = true)) ∧
    ((∀ rest, ¬ EnumCase.Leaves enum.toList value.toList rest) →
      (Swift.IsComponent (EnumCase.name enum value) ↔
        Swift.beginsWithLetter value.toList = true)) := by
  have hfieldChars : ∀ c ∈ field.toList, Swift.isBareChar c = true := fun c hc =>
    Swift.isBareChar_of_mem hfield hc
  have henumChars : ∀ c ∈ enum.toList, Swift.isBareChar c = true := fun c hc =>
    Swift.isBareChar_of_mem henum hc
  have hvalueChars : ∀ c ∈ value.toList, Swift.isBareChar c = true := fun c hc =>
    Swift.isBareChar_of_mem hvalue hc
  rw [EnumCase.isComponent_name_iff hvalue]
  refine ⟨Swift.isComponent_quoted_camel_iff hfieldChars, fun rest hrest => ?_, fun hnone => ?_⟩
  · rw [EnumCase.stripped_of_leaves henumChars hvalueChars hrest]
  · rw [EnumCase.stripped_of_not_leaves henumChars hvalueChars hnone]

/-- A digit behind the first underscore is left alone in camel case, also behind the enum's prefix;
a reserved word is quoted. -/
theorem isComponent_memberNames_digit :
    ¬ Swift.IsComponent (propertyName "_1") ∧
      ¬ Swift.IsComponent (EnumCase.name "Foo" "FOO__1") ∧
      Swift.IsComponent (propertyName "self") ∧
      Swift.IsComponent (EnumCase.name "Foo" "FOO_DEFAULT") := by
  have hdigit : EnumCase.Leaves "Foo".toList "FOO__1".toList "_1".toList :=
    ⟨"FOO_".toList, by decide, by decide, by decide⟩
  have hword : EnumCase.Leaves "Foo".toList "FOO_DEFAULT".toList "DEFAULT".toList :=
    ⟨"FOO_".toList, by decide, by decide, by decide⟩
  have henum : Swift.isBare "Foo" = true := by decide
  obtain ⟨hfield, hcase, -⟩ :=
    isComponent_memberNames "_1" "Foo" "FOO__1" (by decide) henum (by decide)
  obtain ⟨hfield', hcase', -⟩ :=
    isComponent_memberNames "self" "Foo" "FOO_DEFAULT" (by decide) henum (by decide)
  rw [hfield, hcase _ hdigit, hfield', hcase' _ hword]
  decide

end SchemaToSwift
