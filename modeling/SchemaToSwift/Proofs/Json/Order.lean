import Mathlib.Data.List.Lex
import SchemaToSwift.Json.Order
import SchemaToSwift.Proofs.Schema.Typed
import SchemaToSwift.Proofs.Sorting.Insertion
import SchemaToSwift.Proofs.Sorting.Perm

/-!
# Texts compared

A text is the same as itself only (`same_str_right`). Texts are ordered by their code points, which
is a linear order, so a list can always be put in the order of texts that belong to its elements
(`sortBy_texts`).
-/

namespace SchemaToSwift.Json

/-! ## The same texts -/

/-- A string and a number are not the same. -/
theorem same_str_double (a : String) (d : Double) :
    same (.str a) (.double d) = false ∧ same (.double d) (.str a) = false := by
  constructor <;> cases d <;> unfold same <;> dsimp only [integral?] <;> split <;>
    first | rfl | contradiction

/-- Only the same string is the same as a string. -/
theorem same_str_left {a : String} {v : Json} : same (.str a) v = true ↔ v = .str a := by
  cases v with
  | str b => rw [same_str, beq_iff_eq, Json.str.injEq, eq_comm]
  | double d => simp [(same_str_double a d).1]
  | _ => exact ⟨fun h => (by unfold same at h; cases h), fun h => (by cases h)⟩

theorem same_str_right {a : String} {v : Json} : same v (.str a) = true ↔ v = .str a := by
  cases v with
  | str b => rw [same_str, beq_iff_eq, Json.str.injEq]
  | double d => simp [(same_str_double a d).2]
  | _ => exact ⟨fun h => (by unfold same at h; cases h), fun h => (by cases h)⟩

/-- Only the same strings are the same as strings. -/
theorem sameItems_texts {vs ws : List Json} (h : ∀ v ∈ vs, v.IsText) :
    sameItems vs ws = true ↔ ws = vs := by
  induction vs generalizing ws with
  | nil => cases ws <;> simp [sameItems]
  | cons v vs ih =>
    obtain ⟨a, rfl⟩ := h v (.head _)
    cases ws with
    | nil => simp [sameItems]
    | cons w ws => simp [sameItems, same_str_left, ih fun u hu => h u (.tail _ hu)]

/-! ## The order of texts -/

variable {α : Type} {value : α → Json} {xs : List α}

/-- Texts are compared by the numbers of their code points. -/
theorem comparesBy_texts (h : ∀ x ∈ xs, (value x).IsText) :
    Sorting.ComparesBy (fun x y => (value x).less (value y))
      (fun x => Text.codes (value x).display) xs := by
  intro x hx y hy
  obtain ⟨a, ha⟩ := h x hx
  obtain ⟨b, hb⟩ := h y hy
  simp only [ha, hb, less, less?, Text.before, display_str]

/-- A list is put in the order of texts without failing. -/
theorem sortBy_texts (h : ∀ x ∈ xs, (value x).IsText) :
    ∃ ys, sortBy value xs = .ok ys ∧ ys.Perm xs ∧
      Sorting.InOrder (fun x => Text.codes (value x).display) ys := by
  have hnan : (xs.any fun x => (value x).isNan) = false := by
    rw [List.any_eq_false]
    intro x hx
    obtain ⟨s, hs⟩ := h x hx
    simp [hs, isNan]
  rw [sortBy, hnan]
  exact Sorting.insertAll_sorts (comparesBy_texts h)

/-- A list that has been put in order has the same elements, whatever their values are. -/
theorem perm_of_sortBy (h : sortBy value xs = .ok ys) : ys.Perm xs := by
  unfold sortBy at h
  split at h
  · exact Sorting.perm_of_sort h
  · exact Sorting.perm_of_insertAll h

end SchemaToSwift.Json
