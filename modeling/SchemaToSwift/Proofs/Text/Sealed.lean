import SchemaToSwift.Text.Split

/-!
# Texts that do not end a line

A sealed text ends with a character other than a line feed or a carriage return. A line feed that is
added to it is dropped again, and nothing more.
-/

namespace SchemaToSwift.Text

/-- A text ends with a character that is neither a line feed nor a carriage return. -/
def Sealed (s : String) : Prop := ∃ c, s.toList.getLast? = some c ∧ c ≠ '\n' ∧ c ≠ '\r'

/-- A text ends with a line feed and not with two. -/
def EndsOnce (s : String) : Prop := ∃ before c, s.toList = before ++ [c, '\n'] ∧ c ≠ '\n'

variable {s : String}

/-- A text is sealed by its last character. -/
theorem sealed_of_last (h : (s.toList.getLast?.any fun c => c != '\n' && c != '\r') = true) :
    Sealed s := by
  obtain ⟨c, hc, hend⟩ := (Option.any_eq_true _ _).1 h
  rw [Bool.and_eq_true, bne_iff_ne, bne_iff_ne] at hend
  exact ⟨c, hc, hend⟩

/-- A sealed text does not end with a carriage return. -/
theorem Sealed.getLast?_ne (h : Sealed s) : s.toList.getLast? ≠ some '\r' := by
  obtain ⟨c, hc, -, hreturn⟩ := h
  rw [hc]
  exact fun heq => hreturn (Option.some.inj heq)

/-- What stands before a sealed text does not unseal it. -/
theorem Sealed.append (h : Sealed s) (before : String) : Sealed (before ++ s) := by
  obtain ⟨c, hc, hend⟩ := h
  exact ⟨c, by rw [String.toList_append, List.getLast?_append, hc, Option.some_or], hend⟩

/-- A sealed text has no line feeds at its end. -/
theorem Sealed.dropTrailing (h : Sealed s) : dropTrailing '\n' s = s := by
  obtain ⟨c, hc, hfeed, -⟩ := h
  obtain ⟨init, hinit⟩ := List.getLast?_eq_some_iff.1 hc
  refine String.toList_injective ?_
  rw [Text.dropTrailing, hinit, List.reverse_concat,
    List.dropWhile_cons_of_neg (by simpa using hfeed), String.toList_ofList, List.reverse_cons,
    List.reverse_reverse]

/-- So one after it is all there is to drop. -/
theorem Sealed.dropTrailing_newline (h : Sealed s) : Text.dropTrailing '\n' (s ++ "\n") = s := by
  have hreverse : (s ++ "\n").toList.reverse = '\n' :: s.toList.reverse := by simp
  have hdrop : Text.dropTrailing '\n' (s ++ "\n") = Text.dropTrailing '\n' s := by
    rw [Text.dropTrailing, hreverse, List.dropWhile_cons_of_pos (by decide)]
    rfl
  rw [hdrop, h.dropTrailing]

/-- Texts with a separator between them end like the last one. -/
theorem Sealed.intercalate (h : Sealed s) (sep : String) (before : List String) :
    Sealed (sep.intercalate (before ++ [s])) := by
  rcases before with _ | ⟨first, rest⟩
  · rwa [List.nil_append, String.intercalate_singleton]
  · rw [String.intercalate_append_of_ne_nil (by simp) (by simp), String.intercalate_singleton]
    exact h.append _

end SchemaToSwift.Text
