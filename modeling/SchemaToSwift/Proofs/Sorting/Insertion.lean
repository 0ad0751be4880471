import Mathlib.Data.List.Nodup
import Mathlib.Order.Lattice
import SchemaToSwift.Proofs.Result
import SchemaToSwift.Sorting.Insertion

/-!
# Insertion with a total order

Where the comparison of all elements is that of keys in a linear order, putting them in order does
not fail and gives the same elements in the order of their keys (`insertAll_sorts`). The invariant
is that the elements so far are in order, so that an element is below exactly the elements of the
rest behind its position.
-/

namespace SchemaToSwift.Sorting

variable {α ε κ : Type} [LinearOrder κ] {key : α → κ} {less : α → α → Except ε Bool}

/-- The elements are compared by their keys, without failing. -/
def ComparesBy (less : α → α → Except ε Bool) (key : α → κ) (xs : List α) : Prop :=
  ∀ x ∈ xs, ∀ y ∈ xs, less x y = .ok (decide (key x < key y))

theorem ComparesBy.subset {xs ys : List α} (h : ComparesBy less key xs) (hsub : ys ⊆ xs) :
    ComparesBy less key ys := fun x hx y hy => h x (hsub hx) y (hsub hy)

/-- Elements in the order of their keys. -/
def InOrder (key : α → κ) (xs : List α) : Prop := xs.Pairwise fun x y => key x ≤ key y

/-- Of elements in order, something is put behind those that it is not below. -/
theorem position_splits {below : α → Except ε Bool} {p : α → Bool} (xs : List α)
    (hp : ∀ x ∈ xs, below x = .ok (p x)) (hmono : xs.Pairwise fun x y => p x = true → p y = true) :
    ∃ before after, xs = before ++ after ∧ position below xs = .ok before.length ∧
      (∀ x ∈ before, p x = false) ∧ ∀ x ∈ after, p x = true := by
  induction xs using position.induct with
  | case1 xs h =>
    obtain rfl := List.length_eq_zero_iff.1 h
    exact ⟨[], [], rfl, by rw [position]; rfl, by simp, by simp⟩
  | case2 xs h middle ihFront ihBack =>
    have hmid : middle < xs.length := by omega
    -- the element in the middle, between what is before and behind it
    obtain ⟨us, m, vs, hus, hm, hvs⟩ :
        ∃ us m vs, us = xs.take middle ∧ m = xs[middle] ∧ vs = xs.drop (middle + 1) :=
      ⟨_, _, _, rfl, rfl, rfl⟩
    have hxs : xs = us ++ m :: vs := by
      rw [hus, hm, hvs, List.getElem_cons_drop, List.take_append_drop]
    have hlen : us.length = middle := by
      rw [hus, List.length_take]
      omega
    have hstep : position below xs = below m >>= fun b =>
        if b then position below us else (middle + 1 + ·) <$> position below vs := by
      rw [position, dif_neg h, hus, hm, hvs]
      rfl
    rw [← hus] at ihFront
    rw [← hvs] at ihBack
    clear_value middle
    subst hxs
    obtain ⟨hmonoUs, hmonoRest, hmonoTo⟩ := List.pairwise_append.1 hmono
    obtain ⟨hmonoFrom, hmonoVs⟩ := List.pairwise_cons.1 hmonoRest
    rw [hstep, hp m (by simp), Result.bind_ok]
    cases hpm : p m with
    | true =>
      obtain ⟨before, after, rfl, hn, hbefore, hafter⟩ :=
        ihFront (fun x hx => hp x (List.mem_append_left _ hx)) hmonoUs
      refine ⟨before, after ++ m :: vs, by simp, by simpa using hn, hbefore, fun x hx => ?_⟩
      rcases List.mem_append.1 hx with hx | hx
      · exact hafter x hx
      · rcases List.mem_cons.1 hx with rfl | hx
        · exact hpm
        · exact hmonoFrom x hx hpm
    | false =>
      obtain ⟨before, after, rfl, hn, hbefore, hafter⟩ :=
        ihBack (fun x hx => hp x (by simp [hx])) hmonoVs
      refine ⟨us ++ m :: before, after, by simp, ?_, fun x hx => ?_, hafter⟩
      · rw [if_neg (by simp), hn, Result.map_ok, List.length_append, List.length_cons, hlen]
        exact congrArg Except.ok (by omega)
      · rcases List.mem_append.1 hx with hx | hx
        · refine Bool.eq_false_iff.2 fun hpx => ?_
          rw [hmonoTo x hx m (by simp) hpx] at hpm
          cases hpm
        · rcases List.mem_cons.1 hx with rfl | hx
          · exact hpm
          · exact hbefore x hx

/-- One more element in its place. -/
theorem insert_sorts {sorted : List α} {x : α} (hc : ComparesBy less key (x :: sorted))
    (hs : InOrder key sorted) :
    ∃ ys, insert less sorted x = .ok ys ∧ ys.Perm (x :: sorted) ∧ InOrder key ys := by
  obtain ⟨before, after, rfl, hn, hbefore, hafter⟩ :=
    position_splits (p := fun y => decide (key x < key y)) sorted
      (fun y hy => hc x (.head _) y (.tail _ hy)) (hs.imp fun hle hlt => by
        simp only [decide_eq_true_eq] at hlt ⊢
        exact lt_of_lt_of_le hlt hle)
  refine ⟨before ++ x :: after, ?_, List.perm_middle, ?_⟩
  · rw [insert, hn, Result.bind_ok, List.take_left, List.drop_left]
    rfl
  obtain ⟨hb, ha, hba⟩ := List.pairwise_append.1 hs
  refine List.pairwise_append.2 ⟨hb, List.pairwise_cons.2 ⟨fun y hy => ?_, ha⟩, fun y hy z hz => ?_⟩
  · exact le_of_lt (by simpa using hafter y hy)
  · rcases List.mem_cons.1 hz with rfl | hz
    · simpa using hbefore y hy
    · exact hba y hy z hz

/-- Putting elements in order after some that are in order. -/
theorem foldlM_insert_sorts {xs sorted : List α} (hc : ComparesBy less key (xs ++ sorted))
    (hs : InOrder key sorted) :
    ∃ ys, xs.foldlM (insert less) sorted = .ok ys ∧ ys.Perm (xs ++ sorted) ∧ InOrder key ys := by
  induction xs generalizing sorted with
  | nil => exact ⟨sorted, rfl, .refl _, hs⟩
  | cons x rest ih =>
    have hfirst : x :: sorted ⊆ x :: rest ++ sorted :=
      List.cons_subset_cons x (List.subset_append_right rest sorted)
    obtain ⟨ys, hys, hperm, horder⟩ := insert_sorts (hc.subset hfirst) hs
    have hall : (rest ++ ys).Perm (x :: rest ++ sorted) :=
      (hperm.append_left rest).trans List.perm_middle
    obtain ⟨zs, hzs, hperm', horder'⟩ := ih (hc.subset hall.subset) horder
    refine ⟨zs, ?_, hperm'.trans hall, horder'⟩
    rw [List.foldlM_cons, hys, Result.bind_ok, hzs]

/-- Putting elements in order gives the same elements in the order of their keys. -/
theorem insertAll_sorts {xs : List α} (hc : ComparesBy less key xs) :
    ∃ ys, insertAll less xs = .ok ys ∧ ys.Perm xs ∧ InOrder key ys := by
  rw [← List.append_nil xs] at hc
  obtain ⟨ys, hys, hperm, horder⟩ := foldlM_insert_sorts hc List.Pairwise.nil
  exact ⟨ys, hys, by rwa [List.append_nil] at hperm, horder⟩

/-- Elements with different keys have one order only. -/
theorem InOrder.eq_of_perm {xs ys : List α} (hx : InOrder key xs) (hy : InOrder key ys)
    (hperm : xs.Perm ys) (hkeys : (xs.map key).Nodup) : xs = ys := by
  refine hperm.eq_of_pairwise (fun a b ha hb hab hba => ?_) hx hy
  exact List.inj_on_of_nodup_map hkeys ha (hperm.mem_iff.2 hb) (le_antisymm hab hba)

end SchemaToSwift.Sorting
