import SchemaToSwift.Sorting.Insertion

/-!
# Merging runs

`mergeRuns` merges two runs, neighbours in a list, that are each in order. What is in its place
already stays there, and the shorter of the remaining parts is taken apart: from the front if it is
the first one, from the back if it is the second one. Elements are taken one at a time until one
part has been ahead several times in a row; then a gallop in growing steps finds how many elements
of a part come next, for as long as that pays. How often a part has to be ahead is the patience of
the sort, which a gallop that pays makes smaller and one that does not makes greater.

With a total order the result is the stable merge of the runs, whatever the patience. The steps
matter where elements are not ordered.
-/

namespace SchemaToSwift.Sorting

variable {α ε : Type}

/-- The patience at the beginning, and the number of elements for which a gallop pays. -/
def usualPatience : Nat := 7

/-- The end of a list that halving starts from. -/
inductive Side
  | front | back
deriving Repr, DecidableEq

/-- The number of elements before the first that stops, as far as halving the list from a side
shows. -/
def halve (side : Side) (stops : α → Except ε Bool) (xs : List α) : Except ε Nat :=
  match side with
  | .front => position stops xs
  | .back => do return xs.length - (← position (fun x => (!·) <$> stops x) xs.reverse)

/-- Goes on in steps that double, to the first place looked at whose element stops or to the end.
The result is the last place before it that was looked at, and that place. -/
def stride (stops : α → Except ε Bool) (xs : List α) (last next : Nat) : Except ε (Nat × Nat) :=
  if h : next < xs.length then do
    if ← stops xs[next] then return (last, next)
    else stride stops xs next (2 * next + 1)
  else return (last, xs.length)
termination_by xs.length - next

/-- The number of elements before the first that stops, as far as growing steps and then halving
show. -/
def gallop (side : Side) (stops : α → Except ε Bool) (xs : List α) : Except ε Nat :=
  match xs with
  | [] => return 0
  | x :: _ => do
    if ← stops x then return 0
    let (last, next) ← stride stops xs 0 1
    return last + 1 + (← halve side stops ((xs.take next).drop (last + 1)))

/-- Two parts that are being merged, as seen from the side they are taken from, and what has been
taken from them, the newest first. The last element of the first part comes last of all. -/
structure Merging (α : Type) where
  xs : List α
  ys : List α
  taken : List α
deriving Repr

namespace Merging

variable (m : Merging α)

/-- Whether the rest is known: only elements of one part are left, or the one that comes last. -/
def isSettled : Bool := m.xs.length ≤ 1 || m.ys.isEmpty

/-- All elements in order, where the rest is known. -/
def result : List α :=
  m.taken.reverse ++ match m.xs with
    | [x] => m.ys ++ [x]
    | xs => xs ++ m.ys

/-- The number of elements that are left. -/
def left : Nat := m.xs.length + m.ys.length

/-- One element of the first part taken. -/
def takeX : Merging α :=
  match m.xs with
  | x :: xs => ⟨xs, m.ys, x :: m.taken⟩
  | [] => m

/-- One element of the second part taken. -/
def takeY : Merging α :=
  match m.ys with
  | y :: ys => ⟨m.xs, ys, y :: m.taken⟩
  | [] => m

/-- The elements of the first part taken that the next one of the second part is not ahead of, and
their number. -/
def leapX (side : Side) (ahead : α → α → Except ε Bool) : Except ε (Merging α × Nat) :=
  match m.ys with
  | y :: _ => do
    let n ← gallop side (ahead y) m.xs
    return (⟨m.xs.drop n, m.ys, (m.xs.take n).reverse ++ m.taken⟩, n)
  | [] => return (m, 0)

/-- The elements of the second part taken that are ahead of the next one of the first part, and
their number. -/
def leapY (side : Side) (ahead : α → α → Except ε Bool) : Except ε (Merging α × Nat) :=
  match m.xs with
  | x :: _ => do
    let n ← gallop side (fun y => (!·) <$> ahead y x) m.ys
    return (⟨m.xs, m.ys.drop n, (m.ys.take n).reverse ++ m.taken⟩, n)
  | [] => return (m, 0)

/-- A leap in each part, with one element of the other part taken after each. The number is that of
the longer leap, or zero if the rest is known before the end. -/
def leapBoth (side : Side) (ahead : α → α → Except ε Bool) : Except ε (Merging α × Nat) := do
  let (first, n) ← match side with
    | .front => m.leapX side ahead
    | .back => m.leapY side ahead
  if first.isSettled then return (first, 0)
  let second := match side with
    | .front => first.takeY
    | .back => first.takeX
  if second.isSettled then return (second, 0)
  let (third, k) ← match side with
    | .front => second.leapY side ahead
    | .back => second.leapX side ahead
  if third.isSettled then return (third, 0)
  let last := match side with
    | .front => third.takeX
    | .back => third.takeY
  return (last, if last.isSettled then 0 else max n k)

end Merging

/-- Takes elements one at a time until the rest is known or a part has been ahead `patience` times
in a row. The numbers say how often each part has been ahead last. -/
def takeSingly (ahead : α → α → Except ε Bool) (patience xWins yWins : Nat) :
    List α → List α → List α → Except ε (Merging α)
  | x :: xs, y :: ys, taken => do
    if ← ahead y x then
      let next : Merging α := ⟨x :: xs, ys, y :: taken⟩
      if next.isSettled || patience ≤ yWins + 1 then return next
      else takeSingly ahead patience 0 (yWins + 1) (x :: xs) ys (y :: taken)
    else
      let next : Merging α := ⟨xs, y :: ys, x :: taken⟩
      if next.isSettled || patience ≤ xWins + 1 then return next
      else takeSingly ahead patience (xWins + 1) 0 xs (y :: ys) (x :: taken)
  | xs, ys, taken => return ⟨xs, ys, taken⟩
termination_by xs ys => xs.length + ys.length

/-- Leaps for as long as that pays, and the patience after it. The fuel bounds the number of
leaps. -/
def leapOn (side : Side) (ahead : α → α → Except ε Bool) :
    Nat → Nat → Merging α → Except ε (Merging α × Nat)
  | 0, patience, m => return (m, patience)
  | fuel + 1, patience, m => do
    let patience := if 1 < patience then patience - 1 else patience
    let (m, n) ← m.leapBoth side ahead
    if m.isSettled then return (m, patience)
    else if usualPatience ≤ n then leapOn side ahead fuel patience m
    else return (m, patience + 1)

/-- Merges until the rest is known, and the patience after it. The fuel bounds the number of times
that leaping is begun. -/
def mergeOn (side : Side) (ahead : α → α → Except ε Bool) :
    Nat → Nat → Merging α → Except ε (Merging α × Nat)
  | 0, patience, m => return (m, patience)
  | fuel + 1, patience, m => do
    if m.isSettled then return (m, patience)
    let m ← takeSingly ahead patience 0 0 m.xs m.ys m.taken
    if m.isSettled then return (m, patience)
    let (m, patience) ← leapOn side ahead m.left (patience + 1) m
    mergeOn side ahead fuel patience m

/-- The merge of two parts, the second of which comes first, and the patience after it. -/
def mergeParts (less : α → α → Except ε Bool) (patience : Nat) (a b : List α) :
    Except ε (List α × Nat) := do
  if a.length ≤ b.length then
    let (m, patience) ← mergeOn .front less (a.length + b.length) patience
      (Merging.takeY ⟨a, b, []⟩)
    return (m.result, patience)
  else
    let (m, patience) ← mergeOn .back (fun y x => less x y) (a.length + b.length) patience
      (Merging.takeY ⟨b.reverse, a.reverse, []⟩)
    return (m.result.reverse, patience)

/-- The merge of two runs, and the patience after it. The elements at the start of the first run and
at the end of the second one that are in their place are left out of it. -/
def mergeRuns (less : α → α → Except ε Bool) (patience : Nat) (a b : List α) :
    Except ε (List α × Nat) := do
  match b with
  | [] => return (a, patience)
  | first :: _ =>
    let n ← gallop .front (less first) a
    match (a.drop n).getLast? with
    | none => return (a ++ b, patience)
    | some last =>
      let k ← gallop .back (fun x => less x last) b.reverse
      let part := b.take (b.length - k)
      if part.isEmpty then return (a ++ b, patience)
      let (merged, patience) ← mergeParts less patience (a.drop n) part
      return (a.take n ++ merged ++ b.drop (b.length - k), patience)

end SchemaToSwift.Sorting
