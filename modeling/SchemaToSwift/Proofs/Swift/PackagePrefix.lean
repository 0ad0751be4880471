import SchemaToSwift.Proofs.Swift.Word
import SchemaToSwift.Proofs.Text.Split
import SchemaToSwift.Swift.Camel
import SchemaToSwift.Swift.TypePrefix

/-!
# Prefixes component by component

The prefix of a package is found in one pass over its characters, in which dots and underscores both
ask for a capital. It is the prefixes of the components one after the other, and the prefix of a
component is its words, each with a capital, and an underscore (`typePrefix_components`). So a
package in a package has the prefix of the outer one before its own, and no prefix has a dot.
-/

namespace SchemaToSwift

namespace Swift

/-- The prefix of a component: its words, each with a capital, and an underscore. -/
def componentPrefix (component : List Char) : List Char :=
  (Text.splitAt '_' component).flatMap capitalize ++ ['_']

/-! ## One pass -/

/-- Where what follows does not depend on whether a capital is asked for, the pass can be cut. -/
theorem prefixChars_append {after : List Char}
    (h : ∀ capital, prefixChars capital after = prefixChars true after) (capital : Bool)
    (before : List Char) : prefixChars capital (before ++ after) =
      prefixChars capital before ++ prefixChars true after := by
  induction before generalizing capital with
  | nil => exact h capital
  | cons c rest ih =>
    rw [List.cons_append, prefixChars, prefixChars]
    split
    · exact ih true
    · split
      · rw [ih, List.cons_append]
      · split
        · rw [ih, List.append_assoc]
        · rw [ih, List.cons_append]

/-- An underscore asks for a capital. -/
theorem prefixChars_underscore (capital : Bool) (after : List Char) :
    prefixChars capital ('_' :: after) = prefixChars true after := by
  rw [prefixChars, if_pos rfl]

/-- A dot becomes an underscore and asks for a capital. -/
theorem prefixChars_dot (capital : Bool) (after : List Char) :
    prefixChars capital ('.' :: after) = '_' :: prefixChars true after := by
  rw [prefixChars, if_neg (by decide), if_pos rfl]

section
variable {word component : List Char}

/-- In the middle of a word nothing changes. -/
theorem prefixChars_false (hdot : '.' ∉ word) (hunderscore : '_' ∉ word) :
    prefixChars false word = word := by
  induction word with
  | nil => rfl
  | cons c rest ih =>
    rw [List.mem_cons, not_or] at hdot hunderscore
    rw [prefixChars, if_neg (Ne.symm hunderscore.1), if_neg (Ne.symm hdot.1),
      if_neg Bool.false_ne_true, ih hdot.2 hunderscore.2]

/-- A word gets a capital. -/
theorem prefixChars_word (hdot : '.' ∉ word) (hunderscore : '_' ∉ word) :
    prefixChars true word = capitalize word := by
  cases word with
  | nil => rfl
  | cons c rest =>
    rw [List.mem_cons, not_or] at hdot hunderscore
    rw [prefixChars, if_neg (Ne.symm hunderscore.1), if_neg (Ne.symm hdot.1), if_pos rfl,
      prefixChars_false hdot.2 hunderscore.2, capitalize]

/-- Words between underscores each get a capital. -/
theorem prefixChars_words {words : List (List Char)}
    (h : ∀ word ∈ words, '.' ∉ word ∧ '_' ∉ word) :
    prefixChars true (['_'].intercalate words) = words.flatMap capitalize := by
  induction words with
  | nil => rfl
  | cons word rest ih =>
    obtain ⟨⟨hdot, hunderscore⟩, hrest⟩ := List.forall_mem_cons.1 h
    by_cases hnil : rest = []
    · simp [hnil, prefixChars_word hdot hunderscore]
    · rw [List.intercalate_cons_of_ne_nil hnil, List.append_assoc, List.singleton_append,
        prefixChars_append fun _ => by rw [prefixChars_underscore, prefixChars_underscore],
        prefixChars_underscore, prefixChars_word hdot hunderscore, ih hrest, List.flatMap_cons]

theorem prefixChars_component (h : '.' ∉ component) :
    prefixChars true component ++ ['_'] = componentPrefix component := by
  have hwords : ∀ word ∈ Text.splitAt '_' component, '.' ∉ word ∧ '_' ∉ word := by
    intro word hword
    exact ⟨fun hmem => h ((Text.sublist_of_mem_splitAt hword).subset hmem),
      Text.not_mem_of_mem_splitAt hword⟩
  rw [componentPrefix, ← prefixChars_words hwords, Text.intercalate_splitAt]

/-- Components between dots each have their prefix. -/
theorem prefixChars_components {components : List (List Char)} (hne : components ≠ [])
    (h : ∀ component ∈ components, '.' ∉ component) :
    prefixChars true (['.'].intercalate components) ++ ['_'] =
      components.flatMap componentPrefix := by
  induction components with
  | nil => exact absurd rfl hne
  | cons component rest ih =>
    obtain ⟨hdot, hrest⟩ := List.forall_mem_cons.1 h
    rw [List.flatMap_cons, ← prefixChars_component hdot]
    by_cases hnil : rest = []
    · simp [hnil]
    · rw [List.intercalate_cons_of_ne_nil hnil, List.append_assoc, List.singleton_append,
        prefixChars_append fun _ => by rw [prefixChars_dot, prefixChars_dot],
        prefixChars_dot, List.append_assoc, List.cons_append, ih hnil hrest, List.append_assoc,
        List.singleton_append]

/-- A capital is no dot, so the prefix of a component has none. -/
theorem dot_not_mem_componentPrefix (h : '.' ∉ component) :
    '.' ∉ componentPrefix component := by
  have hword : ∀ word ∈ Text.splitAt '_' component, '.' ∉ capitalize word := by
    intro word hword
    have hdot : '.' ∉ word := fun hmem => h ((Text.sublist_of_mem_splitAt hword).subset hmem)
    cases word with
    | nil => exact List.not_mem_nil
    | cons c rest =>
      rw [List.mem_cons, not_or] at hdot
      rw [capitalize, List.mem_append, not_or]
      exact ⟨fun hupper => hdot.1 (Text.eq_of_mem_upperChar (by decide) hupper), hdot.2⟩
  simpa [componentPrefix] using hword

end

/-! ## Packages -/

/-- The prefix of a package is that of its components. -/
theorem toList_packagePrefix {package : String} (h : package ≠ "") :
    (packagePrefix package).toList =
      (Text.splitAt '.' package.toList).flatMap componentPrefix := by
  have hcomponents := prefixChars_components (Text.splitAt_ne_nil '.' package.toList)
    fun _ => Text.not_mem_of_mem_splitAt
  rw [Text.intercalate_splitAt] at hcomponents
  rw [packagePrefix, if_neg h, String.toList_ofList, hcomponents]

/-- In a file that asks for no prefix, the prefix is that of the components of its package, one
after the other: the words of a component, each with a capital, and an underscore. So the prefix of
a package in another one comes after that of the other one, and there is no dot in it. -/
theorem typePrefix_components {package : String} (h : package ≠ "") :
    typePrefixOf (.str package) (.str "") = .ok (.str (typePrefix package "")) ∧
    typePrefix package "" = String.ofList ((Text.splitAt '.' package.toList).flatMap
      fun component => (Text.splitAt '_' component).flatMap capitalize ++ ['_']) ∧
    (∀ inner, inner ≠ "" →
      typePrefix (package ++ "." ++ inner) "" = typePrefix package "" ++ typePrefix inner "") ∧
    '.' ∉ (typePrefix package "").toList := by
  have hletters {name : String} (hname : name ≠ "") : (typePrefix name "").toList =
      (Text.splitAt '.' name.toList).flatMap componentPrefix := toList_packagePrefix hname
  refine ⟨rfl, ?components, fun inner hinner => ?inside, ?dot⟩
  case components =>
    rw [← String.ofList_toList (s := typePrefix package ""), hletters h]
    rfl
  case inside =>
    have hboth : package ++ "." ++ inner ≠ "" := by simp [String.append_eq_empty_iff]
    have hchars : (package ++ "." ++ inner).toList = package.toList ++ '.' :: inner.toList := by
      simp
    refine String.toList_injective ?_
    rw [String.toList_append, hletters hboth, hletters h, hletters hinner, hchars,
      Text.splitAt_append_cons, List.flatMap_append]
  case dot =>
    rw [hletters h, List.mem_flatMap]
    rintro ⟨component, hcomponent, hdot⟩
    exact dot_not_mem_componentPrefix (Text.not_mem_of_mem_splitAt hcomponent) hdot

/-- A character that becomes two in upper case, after an underscore at the start of a component. -/
theorem typePrefix_components_sharp : "foo._ßa__b" ≠ "" ∧ "baz" ≠ "" ∧
    typePrefix "foo._ßa__b" "" = "Foo_SSaB_" ∧
    typePrefix ("foo._ßa__b" ++ "." ++ "baz") "" = typePrefix "foo._ßa__b" "" ++ "Baz_" := by
  have hpackage : "foo._ßa__b" ≠ "" := by decide
  obtain ⟨-, hcomponents, hinside, -⟩ := typePrefix_components hpackage
  refine ⟨hpackage, by decide, hcomponents.trans (by decide), (hinside "baz" (by decide)).trans ?_⟩
  rw [show typePrefix "baz" "" = "Baz_" by decide]

end Swift

end SchemaToSwift
