import SchemaToSwift.Swift.Camel
import SchemaToSwift.Swift.TypePrefix

/-!
# Names that camel case leaves nothing of

Camel case drops underscores and keeps at least one character for every other one, because no
character has an empty upper-case or lower-case form. So the name in camel case is empty exactly
when the name is made of underscores (`lowerCamel_eq_empty`).
-/

namespace SchemaToSwift

namespace Text

/-- The parts between separators are all empty exactly when there is nothing but separators. -/
theorem splitAt_all_nil (sep : Char) (cs : List Char) :
    (∀ part ∈ splitAt sep cs, part = []) ↔ ∀ c ∈ cs, c = sep := by
  induction cs with
  | nil => simp [splitAt]
  | cons c rest ih =>
    rw [splitAt]
    by_cases hc : c = sep
    · simp [hc, ih]
    · cases hrest : splitAt sep rest with
      | nil => exact absurd hrest (splitAt_ne_nil sep rest)
      | cons part parts => simp [hc]

theorem upperSequences_ne_nil : ∀ entry ∈ CaseTable.upperSequences, entry.2 ≠ [] := by decide

/-- A character has an upper-case form. -/
theorem upperChar_ne_nil (c : Char) : upperChar c ≠ [] := by
  unfold upperChar
  split
  · simp
  · split
    · next codes h =>
      obtain ⟨xs, ys, hxy, -⟩ := List.lookup_eq_some_iff.1 h
      have hne := upperSequences_ne_nil (c.toNat, codes) (by rw [hxy]; simp)
      simpa using hne
    · split <;> simp

/-- A character has a lower-case form. -/
theorem lowerChar_ne_nil (c : Char) : lowerChar c ≠ [] := by
  unfold lowerChar
  split
  · simp
  · split
    · simp
    · split <;> simp

theorem lowerFrom_eq_nil {afterCased : Bool} {cs : List Char} :
    lowerFrom afterCased cs = [] ↔ cs = [] := by
  cases cs with
  | nil => simp [lowerFrom]
  | cons c rest =>
    rw [lowerFrom]
    split <;> simp [lowerChar_ne_nil]

/-- The lower-case form of a text is empty only for the empty text. -/
theorem lowerChars_eq_nil {cs : List Char} : lowerChars cs = [] ↔ cs = [] := lowerFrom_eq_nil

end Text

namespace Swift

/-- A name has no words exactly when it is made of underscores. -/
theorem words_eq_nil {cs : List Char} : words cs = [] ↔ ∀ c ∈ cs, c = '_' := by
  rw [← Text.splitAt_all_nil, words, List.filter_eq_nil_iff]
  simp

theorem capitalize_eq_nil {cs : List Char} : capitalize cs = [] ↔ cs = [] := by
  cases cs <;> simp [capitalize, Text.upperChar_ne_nil]

/-- No word is empty. -/
theorem ne_nil_of_mem_words {cs word : List Char} (h : word ∈ words cs) : word ≠ [] := by
  have hword := (List.mem_filter.1 h).2
  simpa using hword

/-- Nothing is left in upper camel case exactly of a name made of underscores. -/
theorem upperCamelChars_eq_nil {cs : List Char} :
    upperCamelChars cs = [] ↔ ∀ c ∈ cs, c = '_' := by
  have hjoin (ws : List (List Char)) (hws : ∀ w ∈ ws, w ≠ []) :
      (ws.map capitalize).flatten = [] ↔ ws = [] := by
    refine ⟨fun h => List.eq_nil_iff_forall_not_mem.2 fun w hw => hws w hw ?_, fun h => by simp [h]⟩
    exact capitalize_eq_nil.1 (List.flatten_eq_nil_iff.1 h _ (List.mem_map_of_mem hw))
  rw [← words_eq_nil, upperCamelChars]
  split
  · rw [hjoin, List.map_eq_nil_iff]
    intro w hw
    obtain ⟨word, hword, rfl⟩ := List.mem_map.1 hw
    exact fun h => ne_nil_of_mem_words hword (Text.lowerChars_eq_nil.1 h)
  · exact hjoin _ fun w hw => ne_nil_of_mem_words hw

/-- Nothing is left in lower camel case exactly of a name made of underscores. -/
theorem lowerCamel_eq_empty {s : String} : lowerCamel s = "" ↔ ∀ c ∈ s.toList, c = '_' := by
  have hchars (joined : List Char) (n : Nat) :
      Text.lowerChars (joined.take n) ++ joined.drop n = [] ↔ joined = [] := by
    rw [List.append_eq_nil_iff, Text.lowerChars_eq_nil, ← List.append_eq_nil_iff,
      List.take_append_drop]
  rw [← upperCamelChars_eq_nil, ← hchars, lowerCamel, String.ofList_eq_empty_iff]
  rfl

/-- The prefix of types is empty exactly when there is neither a package nor a prefix of the
file's own. -/
theorem typePrefix_eq_empty {package swiftPrefix : String} :
    typePrefix package swiftPrefix = "" ↔ package = "" ∧ swiftPrefix = "" := by
  by_cases hp : swiftPrefix = ""
  · by_cases hk : package = ""
    · simp [typePrefix, packagePrefix, hp, hk]
    · simp [typePrefix, packagePrefix, hp, hk]
  · simp [typePrefix, hp]

end Swift

end SchemaToSwift
