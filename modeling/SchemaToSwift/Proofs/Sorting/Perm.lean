import Mathlib.Data.List.Perm.Basic
import SchemaToSwift.Proofs.Result
import SchemaToSwift.Sorting

/-!
# Sorting keeps the elements

Whatever a comparison answers, sorting by it loses no element and adds none (`perm_of_sort`). Each
step moves elements from one list to another: insertion one at a time, a merge between its two parts
and what it has taken, and the stack whole runs.
-/

namespace SchemaToSwift.Sorting

variable {α ε : Type} {less : α → α → Except ε Bool}

/-! ## Insertion -/

/-- An element is inserted among those that are sorted already. -/
theorem perm_of_insert {sorted ys : List α} {x : α} (h : insert less sorted x = .ok ys) :
    ys.Perm (x :: sorted) := by
  obtain ⟨n, -, h⟩ := Result.bind_eq_ok_iff.1 h
  cases h
  have hmiddle : (sorted.take n ++ x :: sorted.drop n).Perm
      (x :: (sorted.take n ++ sorted.drop n)) := List.perm_middle
  rwa [List.take_append_drop] at hmiddle

/-- So are several elements, one after the other. -/
theorem perm_of_foldlM_insert {xs : List α} : ∀ {sorted ys : List α},
    xs.foldlM (insert less) sorted = .ok ys → ys.Perm (xs ++ sorted) := by
  induction xs with
  | nil =>
    intro sorted ys h
    cases h
    exact .refl sorted
  | cons x rest ih =>
    intro sorted ys h
    rw [List.foldlM_cons] at h
    obtain ⟨next, hnext, h⟩ := Result.bind_eq_ok_iff.1 h
    exact (ih h).trans (((perm_of_insert hnext).append_left rest).trans List.perm_middle)

/-- Sorting by insertion gives the elements in another order. -/
theorem perm_of_insertAll {xs ys : List α} (h : insertAll less xs = .ok ys) : ys.Perm xs := by
  have hall := perm_of_foldlM_insert h
  rwa [List.append_nil] at hall

/-! ## Runs -/

/-- A run and what is left after it are the elements as they were. -/
theorem append_of_runFrom {goesOn : α → α → Except ε Bool} {xs : List α} :
    ∀ {first : α} {run left : List α}, runFrom goesOn first xs = .ok (run, left) →
      run ++ left = first :: xs := by
  induction xs with
  | nil =>
    intro first run left h
    cases h
    rfl
  | cons next rest ih =>
    intro first run left h
    rw [runFrom] at h
    obtain ⟨on, -, h⟩ := Result.bind_eq_ok_iff.1 h
    split at h
    · obtain ⟨⟨run', left'⟩, hrest, h⟩ := Result.bind_eq_ok_iff.1 h
      cases h
      rw [List.cons_append, ih hrest]
    · cases h
      rfl

/-- The run at the start of a list, which is empty only if the list is, and the elements after
it. -/
theorem perm_of_firstRun {xs run left : List α} (h : firstRun less xs = .ok (run, left)) :
    (run ++ left).Perm xs ∧ (run = [] → xs = []) := by
  rcases xs with _ | ⟨x, _ | ⟨y, rest⟩⟩
  · cases h
    exact ⟨.nil, id⟩
  · cases h
    exact ⟨.refl _, nofun⟩
  · rw [firstRun] at h
    obtain ⟨falls, -, h⟩ := Result.bind_eq_ok_iff.1 h
    split at h
    · obtain ⟨⟨falling, left⟩, hrun, h⟩ := Result.bind_eq_ok_iff.1 h
      cases h
      refine ⟨((List.reverse_perm _).append_right left).trans ?_, by simp⟩
      rw [List.cons_append, append_of_runFrom hrun]
    · obtain ⟨⟨rising, left⟩, hrun, h⟩ := Result.bind_eq_ok_iff.1 h
      cases h
      rw [List.cons_append, append_of_runFrom hrun]
      exact ⟨.refl _, nofun⟩

/-- A run that is made longer takes in elements after it. -/
theorem perm_of_nextRun {least : Nat} {xs run rest : List α}
    (h : nextRun less least xs = .ok (run, rest)) :
    (run ++ rest).Perm xs ∧ (run = [] → xs = []) := by
  obtain ⟨⟨first, left⟩, hfirst, h⟩ := Result.bind_eq_ok_iff.1 h
  obtain ⟨run', hrun, h⟩ := Result.bind_eq_ok_iff.1 h
  cases h
  obtain ⟨hperm, hempty⟩ := perm_of_firstRun hfirst
  have hinserted := perm_of_foldlM_insert hrun
  refine ⟨?_, fun hnil => hempty ?_⟩
  · have hmoved := (hinserted.trans List.perm_append_comm).append_right
      (left.drop (least - first.length))
    rw [List.append_assoc, List.take_append_drop] at hmoved
    exact hmoved.trans hperm
  · rw [hnil, List.nil_perm] at hinserted
    exact (List.append_eq_nil_iff.1 hinserted).2

/-! ## Merging two parts -/

namespace Merging

variable {side : Side} {ahead : α → α → Except ε Bool} {m m' : Merging α} {n : Nat}

/-- All elements, what has been taken first. -/
def elements (m : Merging α) : List α := m.taken ++ (m.xs ++ m.ys)

/-- Where the rest of a merge is known, nothing gets lost. -/
theorem perm_result (m : Merging α) : m.result.Perm m.elements := by
  rcases m with ⟨_ | ⟨x, _ | ⟨x', xs⟩⟩, ys, taken⟩
  · exact (List.reverse_perm taken).append_right _
  · exact (List.reverse_perm taken).append List.perm_append_comm
  · exact (List.reverse_perm taken).append_right _

/-- Taking an element from the first run keeps all elements. -/
theorem perm_takeX (m : Merging α) : m.takeX.elements.Perm m.elements := by
  rcases m with ⟨_ | ⟨x, xs⟩, ys, taken⟩
  · exact .refl _
  · exact List.perm_middle.symm

/-- So does taking one from the second run. -/
theorem perm_takeY (m : Merging α) : m.takeY.elements.Perm m.elements := by
  rcases m with ⟨xs, _ | ⟨y, ys⟩, taken⟩
  · exact .refl _
  · exact List.perm_middle.symm.trans (List.perm_middle.symm.append_left taken)

/-- Elements that are taken from the front of a part are left out of it. -/
theorem perm_taken (n : Nat) (xs taken : List α) :
    ((xs.take n).reverse ++ taken ++ xs.drop n).Perm (taken ++ xs) := by
  have hmoved := (((List.reverse_perm (xs.take n)).append_right taken).trans
    List.perm_append_comm).append_right (xs.drop n)
  rwa [List.append_assoc taken, List.take_append_drop] at hmoved

/-- So does taking several at once from the first run. -/
theorem perm_leapX (h : m.leapX side ahead = .ok (m', n)) : m'.elements.Perm m.elements := by
  unfold leapX at h
  split at h
  · obtain ⟨k, -, h⟩ := Result.bind_eq_ok_iff.1 h
    cases h
    have hmoved := (perm_taken n m.xs m.taken).append_right m.ys
    rwa [List.append_assoc, List.append_assoc m.taken] at hmoved
  · cases h
    exact .refl _

/-- So does taking several at once from the second run. -/
theorem perm_leapY (h : m.leapY side ahead = .ok (m', n)) : m'.elements.Perm m.elements := by
  unfold leapY at h
  split at h
  · obtain ⟨k, -, h⟩ := Result.bind_eq_ok_iff.1 h
    cases h
    have hmoved := (perm_taken n m.ys m.taken).append_right m.xs
    rw [List.append_assoc, List.append_assoc m.taken] at hmoved
    exact (List.perm_append_comm.append_left _).trans
      (hmoved.trans (List.perm_append_comm.append_left _))
  · cases h
    exact .refl _

/-- A leap in one part and one in the other, with an element taken after each, where all four keep
the elements. -/
theorem perm_of_leaps {leap leap' : Merging α → Except ε (Merging α × Nat)}
    {take take' : Merging α → Merging α}
    (hleap : ∀ {m m' : Merging α} {n : Nat}, leap m = .ok (m', n) → m'.elements.Perm m.elements)
    (hleap' : ∀ {m m' : Merging α} {n : Nat}, leap' m = .ok (m', n) → m'.elements.Perm m.elements)
    (htake : ∀ m, (take m).elements.Perm m.elements)
    (htake' : ∀ m, (take' m).elements.Perm m.elements)
    (h : (do
      let (first, n) ← leap m
      if first.isSettled then return (first, 0)
      let second := take first
      if second.isSettled then return (second, 0)
      let (third, k) ← leap' second
      if third.isSettled then return (third, 0)
      let last := take' third
      return (last, if last.isSettled then 0 else max n k)) = .ok (m', n)) :
    m'.elements.Perm m.elements := by
  obtain ⟨⟨first, k⟩, hfirst, h⟩ := Result.bind_eq_ok_iff.1 h
  dsimp only at h
  replace hfirst := hleap hfirst
  have hsecond := (htake first).trans hfirst
  split at h
  · cases h
    exact hfirst
  · split at h
    · cases h
      exact hsecond
    · obtain ⟨⟨third, l⟩, hthird, h⟩ := Result.bind_eq_ok_iff.1 h
      dsimp only at h
      replace hthird := (hleap' hthird).trans hsecond
      split at h
      · cases h
        exact hthird
      · cases h
        exact (htake' third).trans hthird

/-- So does taking several from both. -/
theorem perm_leapBoth (h : m.leapBoth side ahead = .ok (m', n)) : m'.elements.Perm m.elements := by
  unfold leapBoth at h
  cases side with
  | front => exact perm_of_leaps perm_leapX perm_leapY perm_takeY perm_takeX h
  | back => exact perm_of_leaps perm_leapY perm_leapX perm_takeX perm_takeY h

end Merging

variable {side : Side} {ahead : α → α → Except ε Bool} {m m' : Merging α}

/-- Elements taken one at a time. -/
theorem perm_of_takeSingly {patience xWins yWins : Nat} {xs ys taken : List α}
    (h : takeSingly ahead patience xWins yWins xs ys taken = .ok m') :
    m'.elements.Perm (Merging.elements ⟨xs, ys, taken⟩) := by
  fun_induction takeSingly ahead patience xWins yWins xs ys taken generalizing m' with
  | case1 xWins yWins x xs y ys taken ihY ihX =>
    obtain ⟨isAhead, -, h⟩ := Result.bind_eq_ok_iff.1 h
    have hy := Merging.perm_takeY ⟨x :: xs, y :: ys, taken⟩
    have hx := Merging.perm_takeX ⟨x :: xs, y :: ys, taken⟩
    dsimp only at h
    split at h
    · split at h
      · cases h
        exact hy
      · exact (ihY h).trans hy
    · split at h
      · cases h
        exact hx
      · exact (ihX h).trans hx
  | case2 =>
    cases h
    exact .refl _

/-- So does going on like this while it pays off. -/
theorem perm_of_leapOn {fuel : Nat} : ∀ {patience patience' : Nat} {m m' : Merging α},
    leapOn side ahead fuel patience m = .ok (m', patience') → m'.elements.Perm m.elements := by
  induction fuel with
  | zero =>
    intro patience patience' m m' h
    cases h
    exact .refl _
  | succ fuel ih =>
    intro patience patience' m m' h
    rw [leapOn] at h
    obtain ⟨⟨next, n⟩, hnext, h⟩ := Result.bind_eq_ok_iff.1 h
    dsimp only at h
    replace hnext := Merging.perm_leapBoth hnext
    split at h
    · cases h
      exact hnext
    · split at h
      · exact (ih h).trans hnext
      · cases h
        exact hnext

/-- So does merging to the end. -/
theorem perm_of_mergeOn {fuel : Nat} : ∀ {patience patience' : Nat} {m m' : Merging α},
    mergeOn side ahead fuel patience m = .ok (m', patience') → m'.elements.Perm m.elements := by
  induction fuel with
  | zero =>
    intro patience patience' m m' h
    cases h
    exact .refl _
  | succ fuel ih =>
    intro patience patience' m m' h
    rw [mergeOn] at h
    split at h
    · cases h
      exact .refl _
    · obtain ⟨next, hnext, h⟩ := Result.bind_eq_ok_iff.1 h
      replace hnext := perm_of_takeSingly hnext
      split at h
      · cases h
        exact hnext
      · obtain ⟨⟨last, patience''⟩, hlast, h⟩ := Result.bind_eq_ok_iff.1 h
        exact (ih h).trans ((perm_of_leapOn hlast).trans hnext)

/-- Two parts are merged into their elements in another order. -/
theorem perm_of_mergeParts {patience patience' : Nat} {a b merged : List α}
    (h : mergeParts less patience a b = .ok (merged, patience')) : merged.Perm (a ++ b) := by
  unfold mergeParts at h
  split at h
  · obtain ⟨⟨m, p⟩, hm, h⟩ := Result.bind_eq_ok_iff.1 h
    cases h
    exact m.perm_result.trans ((perm_of_mergeOn hm).trans (Merging.perm_takeY _))
  · obtain ⟨⟨m, p⟩, hm, h⟩ := Result.bind_eq_ok_iff.1 h
    cases h
    have hparts := m.perm_result.trans ((perm_of_mergeOn hm).trans (Merging.perm_takeY _))
    exact (List.reverse_perm _).trans (hparts.trans
      (((List.reverse_perm b).append (List.reverse_perm a)).trans List.perm_append_comm))

/-- So are two runs, the ends of which stay where they are. -/
theorem perm_of_mergeRuns {patience patience' : Nat} {a b merged : List α}
    (h : mergeRuns less patience a b = .ok (merged, patience')) : merged.Perm (a ++ b) := by
  rcases b with _ | ⟨first, rest⟩
  · cases h
    rw [List.append_nil]
  · obtain ⟨n, -, h⟩ := Result.bind_eq_ok_iff.1 h
    split at h
    · cases h
      exact .refl _
    · obtain ⟨k, -, h⟩ := Result.bind_eq_ok_iff.1 h
      dsimp only at h
      split at h
      · cases h
        exact .refl _
      · obtain ⟨⟨middle, p⟩, hmiddle, h⟩ := Result.bind_eq_ok_iff.1 h
        cases h
        refine (((perm_of_mergeParts hmiddle).append_left _).append_right _).trans ?_
        rw [← List.append_assoc, List.take_append_drop, List.append_assoc, List.take_append_drop]

/-! ## The stack -/

/-- The elements of the runs on a stack, those of the top one first. -/
def elementsAbove (waiting : List (Waiting α)) (top : List α) : List α :=
  top ++ waiting.flatMap (·.run)

/-- Merging runs on the stack keeps the elements on it. -/
theorem perm_of_collapse {power : Nat} {waiting : List (Waiting α)} :
    ∀ {waiting' : List (Waiting α)} {top top' : List α} {patience patience' : Nat},
      collapse less power waiting top patience = .ok (waiting', top', patience') →
        (elementsAbove waiting' top').Perm (elementsAbove waiting top) := by
  induction waiting with
  | nil =>
    intro waiting' top top' patience patience' h
    cases h
    exact .refl _
  | cons w rest ih =>
    intro waiting' top top' patience patience' h
    rw [collapse] at h
    split at h
    · obtain ⟨⟨merged, p⟩, hmerged, h⟩ := Result.bind_eq_ok_iff.1 h
      have hmoved := ((perm_of_mergeRuns hmerged).trans List.perm_append_comm).append_right
        (rest.flatMap (·.run))
      rw [List.append_assoc] at hmoved
      exact (ih h).trans hmoved
    · cases h
      exact .refl _

namespace Stack

/-- The elements of the runs on the stack. -/
def elements (s : Stack α) : List α := elementsAbove s.waiting s.top

/-- Pushing a run adds its elements. -/
theorem perm_of_push {total : Nat} {s s' : Stack α} {next : List α}
    (h : s.push less total next = .ok s') : s'.elements.Perm (s.elements ++ next) := by
  obtain ⟨⟨waiting, merged, patience⟩, hmerged, h⟩ := Result.bind_eq_ok_iff.1 h
  cases h
  exact ((perm_of_collapse hmerged).append_left next).trans List.perm_append_comm

/-- Pushing all runs of a list adds its elements. -/
theorem perm_of_pushAll {total least fuel : Nat} : ∀ {s s' : Stack α} {xs : List α},
    xs.length ≤ fuel → pushAll less total least fuel s xs = .ok s' →
      s'.elements.Perm (s.elements ++ xs) := by
  induction fuel with
  | zero =>
    intro s s' xs hfuel h
    obtain rfl := List.length_eq_zero_iff.1 (Nat.le_zero.1 hfuel)
    cases h
    rw [List.append_nil]
  | succ fuel ih =>
    intro s s' xs hfuel h
    rcases xs with _ | ⟨x, xs⟩
    · cases h
      rw [List.append_nil]
    · rw [pushAll] at h
      obtain ⟨⟨run, rest⟩, hrun, h⟩ := Result.bind_eq_ok_iff.1 h
      obtain ⟨pushed, hpushed, h⟩ := Result.bind_eq_ok_iff.1 h
      obtain ⟨hperm, hempty⟩ := perm_of_nextRun hrun
      have hlength := hperm.length_eq
      have hpositive := List.length_pos_iff.2 fun hnil => List.cons_ne_nil x xs (hempty hnil)
      rw [List.length_append, List.length_cons] at hlength
      rw [List.length_cons] at hfuel
      have hrest := ih (by omega) h
      have hmoved := (perm_of_push hpushed).append_right rest
      rw [List.append_assoc] at hmoved
      exact hrest.trans (hmoved.trans (hperm.append_left s.elements))

end Stack

/-- Merging all runs gives their elements in another order. -/
theorem perm_of_mergeAll {runs : List (List α)} {patience : Nat} {ys : List α}
    (h : mergeAll less runs patience = .ok ys) : ys.Perm runs.flatten := by
  fun_induction mergeAll less runs patience with
  | case1 =>
    cases h
    exact .nil
  | case2 run =>
    cases h
    simp
  | case3 c b patience =>
    obtain ⟨⟨merged, p⟩, hmerged, h⟩ := Result.bind_eq_ok_iff.1 h
    cases h
    simpa using (perm_of_mergeRuns hmerged).trans List.perm_append_comm
  | case4 c b a rest patience _ ih =>
    obtain ⟨⟨merged, p⟩, hmerged, h⟩ := Result.bind_eq_ok_iff.1 h
    have hneighbours := (perm_of_mergeRuns hmerged).trans List.perm_append_comm
    refine (ih merged p h).trans ?_
    simpa using (hneighbours.append_right rest.flatten).append_left c
  | case5 c b a rest patience _ ih =>
    obtain ⟨⟨merged, p⟩, hmerged, h⟩ := Result.bind_eq_ok_iff.1 h
    have hneighbours := (perm_of_mergeRuns hmerged).trans List.perm_append_comm
    refine (ih merged p h).trans ?_
    simpa using hneighbours.append_right (a ++ rest.flatten)

/-- Sorting keeps the elements. -/
theorem perm_of_sort {xs ys : List α} (h : sort less xs = .ok ys) : ys.Perm xs := by
  obtain ⟨⟨first, rest⟩, hfirst, h⟩ := Result.bind_eq_ok_iff.1 h
  obtain ⟨stack, hstack, h⟩ := Result.bind_eq_ok_iff.1 h
  have hperm := (perm_of_nextRun hfirst).1
  have hlength : rest.length ≤ xs.length := by
    rw [← hperm.length_eq, List.length_append]
    exact Nat.le_add_left _ _
  have hpushed := Stack.perm_of_pushAll hlength hstack
  have hmerged := perm_of_mergeAll h
  rw [List.flatten_cons, ← List.flatMap_def] at hmerged
  refine hmerged.trans (hpushed.trans ?_)
  rwa [Stack.elements, elementsAbove, List.flatMap_nil, List.append_nil]

end SchemaToSwift.Sorting
