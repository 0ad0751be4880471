/-!
# Runs of code points

A character property is a table of runs: code points at an even distance from a first to a last
one. A case mapping is a table of shifts: runs whose code points all move by one distance.
`inRuns` and `shifted?` look a code point up.
-/

namespace SchemaToSwift.Text

/-- Every `step`-th code point from `first` to `last`. -/
structure Run where
  first : Nat
  last : Nat
  step : Nat
deriving Repr, DecidableEq

/-- A code point of the run. -/
def Run.contains (r : Run) (n : Nat) : Bool :=
  r.first ≤ n && n ≤ r.last && (n - r.first) % r.step == 0

/-- Whether some run of the table holds the code point. -/
def inRuns (table : List Run) (n : Nat) : Bool := table.any (·.contains n)

/-- A run whose code points are mapped by adding `delta`. -/
structure Shift where
  first : Nat
  last : Nat
  step : Nat
  delta : Int
deriving Repr, DecidableEq

/-- The code points that the shift applies to. -/
def Shift.run (s : Shift) : Run := ⟨s.first, s.last, s.step⟩

/-- The code point that the table maps `n` to, if it maps it at all. -/
def shifted? (table : List Shift) (n : Nat) : Option Nat :=
  (table.find? (·.run.contains n)).map fun s => (Int.ofNat n + s.delta).toNat

end SchemaToSwift.Text
