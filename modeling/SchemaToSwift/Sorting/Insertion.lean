/-!
# Sorting by insertion

`insertAll` puts a list in order by a comparison that may fail, and fails with it: every element is
put behind the last one that it is not below, found by halving. Where the comparison is a total
order the result is the list in that order, and elements that are equal keep their order.
-/

namespace SchemaToSwift.Sorting

variable {α ε : Type}

/-- The number of elements that something is put behind: it is below none of them, as far as halving
the list shows. -/
def position (below : α → Except ε Bool) (xs : List α) : Except ε Nat :=
  if h : xs.length = 0 then return 0
  else do
    let middle := xs.length / 2
    if ← below (xs.get ⟨middle, by omega⟩) then position below (xs.take middle)
    else return middle + 1 + (← position below (xs.drop (middle + 1)))
termination_by xs.length
decreasing_by
  · simp only [List.length_take]; omega
  · simp only [List.length_drop]; omega

/-- The list in order with one more element. -/
def insert (less : α → α → Except ε Bool) (sorted : List α) (x : α) : Except ε (List α) := do
  let n ← position (less x) sorted
  return sorted.take n ++ x :: sorted.drop n

/-- The list in order. -/
def insertAll (less : α → α → Except ε Bool) (xs : List α) : Except ε (List α) :=
  xs.foldlM (insert less) []

end SchemaToSwift.Sorting
