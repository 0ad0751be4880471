import Mathlib.Data.List.Basic

/-!
# First occurrences

A list that takes in one element after the other, but none that is the same as one it holds already,
ends up with the first occurrences of what it was given (`foldl_pushNew_nil`). Where being the same
is having the same key, the keys of the first occurrences are all keys, each once and in the order
in which they first occur (`map_firstOccurrences`).
-/

namespace SchemaToSwift

section
variable {α : Type} (same : α → α → Bool)

/-- The list with an element at its end, unless it has one that is the same. -/
def pushNew (acc : List α) (x : α) : List α :=
  if acc.any (same · x) then acc else acc ++ [x]

/-- The elements that are not the same as an earlier one among them. -/
def firstOccurrences (xs : List α) : List α := xs.eraseDupsBy fun x y => same y x

theorem firstOccurrences_cons (x : α) (xs : List α) :
    firstOccurrences same (x :: xs) =
      x :: firstOccurrences same (xs.filter fun y => !same x y) := by
  rw [firstOccurrences, List.eraseDupsBy_cons, firstOccurrences]
  simp

/-- What a list has taken in are the first occurrences of what is not there already. -/
theorem foldl_pushNew (xs : List α) : ∀ acc : List α,
    xs.foldl (pushNew same) acc =
      acc ++ firstOccurrences same (xs.filter fun y => !acc.any (same · y)) := by
  induction xs with
  | nil => exact fun acc => (List.append_nil acc).symm
  | cons x rest ih =>
    intro acc
    rw [List.foldl_cons, ih, pushNew]
    by_cases hx : acc.any (same · x) = true
    · rw [if_pos hx, List.filter_cons_of_neg (by simp [hx])]
    · rw [if_neg hx, List.filter_cons_of_pos (by simpa using hx), firstOccurrences_cons,
        List.filter_filter, List.append_assoc, List.singleton_append]
      simp only [List.any_append, List.any_cons, List.any_nil, Bool.or_false, Bool.not_or,
        Bool.and_comm]

theorem foldl_pushNew_nil (xs : List α) :
    xs.foldl (pushNew same) [] = firstOccurrences same xs := by
  rw [foldl_pushNew]
  simp

/-- First occurrences are elements. -/
theorem firstOccurrences_subset (xs : List α) : firstOccurrences same xs ⊆ xs := by
  have hfold (xs : List α) : ∀ acc : List α, xs.foldl (pushNew same) acc ⊆ acc ++ xs := by
    induction xs with
    | nil => exact fun acc => List.subset_append_left acc []
    | cons x rest ih =>
      intro acc
      refine List.Subset.trans (ih _) (List.append_subset.2 ⟨?_, ?_⟩)
      · unfold pushNew
        split <;> simp
      · simp
  rw [← foldl_pushNew_nil]
  exact hfold xs []

end

/-! ## Elements with keys -/

section
variable {α β : Type} [BEq β] [LawfulBEq β]

/-- The keys of first occurrences. -/
theorem map_firstOccurrences (key : α → β) (xs : List α) :
    (firstOccurrences (fun x y => key x == key y) xs).map key = (xs.map key).eraseDups := by
  induction h : xs.length using Nat.strongRecOn generalizing xs with
  | ind n ih =>
    subst h
    cases xs with
    | nil => rfl
    | cons x rest =>
      have hshort : (rest.filter fun y => !(key x == key y)).length < (x :: rest).length :=
        Nat.lt_succ_of_le (List.length_filter_le _ _)
      have hkeys : (rest.filter fun y => !(key x == key y)).map key =
          (rest.map key).filter fun k => !(k == key x) := by
        rw [List.filter_map]
        congr 2
        funext y
        exact congrArg _ BEq.comm
      rw [firstOccurrences_cons, List.map_cons, ih _ hshort _ rfl, hkeys, List.map_cons,
        List.eraseDups_cons]

/-- No key occurs twice. -/
theorem nodup_eraseDups (ks : List β) : ks.eraseDups.Nodup := by
  induction h : ks.length using Nat.strongRecOn generalizing ks with
  | ind n ih =>
    subst h
    cases ks with
    | nil => exact .nil
    | cons k rest =>
      rw [List.eraseDups_cons, List.nodup_cons]
      refine ⟨by simp, ih _ (Nat.lt_succ_of_le (List.length_filter_le _ _)) _ rfl⟩

/-- A key at the end counts if it is new. -/
theorem eraseDups_concat (ks : List β) (k : β) :
    (ks ++ [k]).eraseDups = if k ∈ ks then ks.eraseDups else ks.eraseDups ++ [k] := by
  rw [List.eraseDups_append, List.removeAll]
  by_cases hk : k ∈ ks
  · simp [hk]
  · rw [if_neg hk, List.filter_cons_of_pos (by simpa using hk), List.filter_nil]
    rfl

end

end SchemaToSwift
