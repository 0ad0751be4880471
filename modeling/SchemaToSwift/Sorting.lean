import SchemaToSwift.Sorting.Merge

/-!
# Sorting by runs

`sort` puts a list in order by a comparison that may fail, and fails with it. The list is cut into
runs that are in order already, turned around where they fall, and short ones are made longer by
insertion. The runs wait on a stack, and neighbours are merged so that the merges make up a tree
that is nearly balanced: the power of the boundary between two runs is its depth in the tree. A
total order decides the result by itself, up to elements that are equal, which keep their order, and
then `insertAll` gives it too. The steps matter where elements are not ordered, as a NaN is neither
below nor above anything.
-/

namespace SchemaToSwift.Sorting

variable {α ε : Type}

/-- The run that begins with an element and goes on as long as each element is followed by the next
one in the given sense, and the elements after it. -/
def runFrom (goesOn : α → α → Except ε Bool) (first : α) : List α → Except ε (List α × List α)
  | [] => return ([first], [])
  | next :: rest => do
    if ← goesOn first next then
      let (run, left) ← runFrom goesOn next rest
      return (first :: run, left)
    else return ([first], next :: rest)

/-- The run at the start of a list, in rising order, and the elements after it. A run that falls
does so strictly. -/
def firstRun (less : α → α → Except ε Bool) : List α → Except ε (List α × List α)
  | [] => return ([], [])
  | [x] => return ([x], [])
  | x :: y :: rest => do
    if ← less y x then
      let (run, left) ← runFrom (fun a b => less b a) y rest
      return ((x :: run).reverse, left)
    else
      let (run, left) ← runFrom (fun a b => (!·) <$> less b a) y rest
      return (x :: run, left)

/-- The length that a run is made to have at least: that of the whole list if it is below 64, and
else its first six binary digits, rounded up. -/
def leastRun (roundUp : Bool) (length : Nat) : Nat :=
  if length < 64 then (if roundUp then length + 1 else length)
  else leastRun (roundUp || length % 2 == 1) (length / 2)
termination_by length

/-- The run at the start of a list, made longer by insertion if it is short, and the elements after
it. -/
def nextRun (less : α → α → Except ε Bool) (least : Nat) (xs : List α) :
    Except ε (List α × List α) := do
  let (run, rest) ← firstRun less xs
  let missing := least - run.length
  return (← (rest.take missing).foldlM (insert less) run, rest.drop missing)

/-- The power of a boundary: the first binary place in which the middles of the runs before and
after it, as fractions of the whole, differ. The middles are given twice as great, and the fuel
bounds the number of places. -/
def power (total : Nat) : Nat → Nat → Nat → Nat
  | 0, _, _ => 0
  | fuel + 1, a, b =>
    if total ≤ a then power total fuel (2 * (a - total)) (2 * (b - total)) + 1
    else if total ≤ b then 1
    else power total fuel (2 * a) (2 * b) + 1

/-- A run that waits below others, and the power of the boundary after it. -/
structure Waiting (α : Type) where
  run : List α
  power : Nat
deriving Repr

/-- The top run merged with those that wait below it before boundaries of greater power, what still
waits, and the patience after it. -/
def collapse (less : α → α → Except ε Bool) (power : Nat) :
    List (Waiting α) → List α → Nat → Except ε (List (Waiting α) × List α × Nat)
  | [], top, patience => return ([], top, patience)
  | w :: rest, top, patience =>
    if power < w.power then do
      let (top, patience) ← mergeRuns less patience w.run top
      collapse less power rest top patience
    else return (w :: rest, top, patience)

/-- Runs on a stack. -/
structure Stack (α : Type) where
  /-- The runs below the top one, the newest first. -/
  waiting : List (Waiting α)
  top : List α
  /-- The number of elements before the top run. -/
  start : Nat
  patience : Nat
deriving Repr

namespace Stack

/-- The stack with one more run, of a list of the given length. -/
def push (less : α → α → Except ε Bool) (total : Nat) (s : Stack α) (next : List α) :
    Except ε (Stack α) := do
  let middle := 2 * s.start + s.top.length
  let p := power total total middle (middle + s.top.length + next.length)
  let (waiting, merged, patience) ← collapse less p s.waiting s.top s.patience
  return ⟨⟨merged, p⟩ :: waiting, next, s.start + s.top.length, patience⟩

/-- The stack with the runs of a list. The fuel bounds their number. -/
def pushAll (less : α → α → Except ε Bool) (total least : Nat) :
    Nat → Stack α → List α → Except ε (Stack α)
  | 0, s, _ | _, s, [] => return s
  | fuel + 1, s, x :: xs => do
    let (next, rest) ← nextRun less least (x :: xs)
    pushAll less total least fuel (← s.push less total next) rest

end Stack

/-- The merge of all runs, the newest first: of the two upper ones, unless the one below them is
shorter than the topmost. -/
def mergeAll (less : α → α → Except ε Bool) : List (List α) → Nat → Except ε (List α)
  | [], _ => return []
  | [run], _ => return run
  | [c, b], patience => do return (← mergeRuns less patience b c).1
  | c :: b :: a :: rest, patience => do
    if a.length < c.length then
      let (merged, patience) ← mergeRuns less patience a b
      mergeAll less (c :: merged :: rest) patience
    else
      let (merged, patience) ← mergeRuns less patience b c
      mergeAll less (merged :: a :: rest) patience
termination_by runs => runs.length

/-- The list in order. -/
def sort (less : α → α → Except ε Bool) (xs : List α) : Except ε (List α) := do
  let least := leastRun false xs.length
  let (first, rest) ← nextRun less least xs
  let stack ← Stack.pushAll less xs.length least xs.length ⟨[], first, 0, usualPatience⟩ rest
  mergeAll less (stack.top :: stack.waiting.map (·.run)) stack.patience

end SchemaToSwift.Sorting
