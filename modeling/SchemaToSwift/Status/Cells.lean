import SchemaToSwift.Status.CellTable
import SchemaToSwift.Text.Point

/-!
# Cells of a screen

A screen has room for a number of cells in a line. `cellsOf` says how many a code point takes,
`chop` cuts a text into pieces that fit, and `cutTo` leaves so much of one as fits.
-/

namespace SchemaToSwift.Status

/-- The number of cells that a code point takes. -/
def cellsOf (p : Text.Point) : Nat :=
  let n := p.code
  if 32 ≤ n ∧ n < 127 then 1
  else if Text.inRuns CellTable.emptyRuns n then 0
  else if Text.inRuns CellTable.doubleRuns n then 2
  else 1

/-- The number of cells that code points take. -/
def cells (ps : List Text.Point) : Nat := ps.foldl (fun n p => n + cellsOf p) 0

/-- The pieces of a text each of which takes at most so many cells, where the first one has begun
with `current`, held in reverse, which takes `used` cells. -/
def chopFrom (width : Nat) (current : List Text.Point) (used : Nat) :
    List Text.Point → List (List Text.Point)
  | [] => [current.reverse]
  | p :: rest =>
    if width < used + cellsOf p then current.reverse :: chopFrom width [p] (cellsOf p) rest
    else chopFrom width (p :: current) (used + cellsOf p) rest

/-- The pieces of a text each of which takes at most so many cells. -/
def chop (width : Nat) (ps : List Text.Point) : List (List Text.Point) := chopFrom width [] 0 ps

/-- Chopping loses nothing. -/
theorem flatten_chopFrom (width : Nat) (current : List Text.Point) (used : Nat)
    (ps : List Text.Point) :
    (chopFrom width current used ps).flatten = current.reverse ++ ps := by
  induction ps generalizing current used with
  | nil => simp [chopFrom]
  | cons p rest ih =>
    rw [chopFrom]
    split <;> simp [ih]

/-- The pieces of a text make it up. -/
theorem flatten_chop (width : Nat) (ps : List Text.Point) : (chop width ps).flatten = ps :=
  flatten_chopFrom width [] 0 ps

/-- A code point of the blocks in which every one is known to take one cell. -/
def isSingle (p : Text.Point) : Bool :=
  let n := p.code
  (0x20 ≤ n && n ≤ 0x6f) || n == 0xa0 || n == 0x2ff || (0x370 ≤ n && n ≤ 0x482)

/-- A blank. -/
def blank : Text.Point := .char ' '

/-- So much of a text as takes the given cells, found by halving between two offsets; half of a code
point with two cells becomes a blank. The fuel bounds the number of halvings. -/
def cutBetween (width : Nat) (ps : List Text.Point) : Nat → Nat → Nat → List Text.Point
  | 0, _, _ => ps
  | fuel + 1, start, stop =>
    let middle := (start + stop) / 2
    let before := ps.take (middle + 1)
    let taken := cells before
    if taken = width + 1 ∧ (before.getLast?.map cellsOf) = some 2 then before.dropLast ++ [blank]
    else if taken = width then before
    else if width < taken then cutBetween width ps fuel start middle
    else cutBetween width ps fuel middle stop

/-- So much of a text as takes the given cells, of which it takes more. -/
def cutTo (width : Nat) (ps : List Text.Point) : List Text.Point :=
  if ps.all isSingle then ps.take width else cutBetween width ps (ps.length + 1) 0 ps.length

end SchemaToSwift.Status
