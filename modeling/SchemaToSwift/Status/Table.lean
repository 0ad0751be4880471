import SchemaToSwift.Number.Double
import SchemaToSwift.Status.Screen
import SchemaToSwift.Text.Lines

/-!
# Showing tables

A table has columns of cells with tags. It is as wide as its cells need, but no wider than the
screen: the widest columns are made narrower first. All cells are read, column by column, before
the first one is shown.
-/

namespace SchemaToSwift.Status

/-- A column of a table. -/
structure Column where
  title : String
  cells : List String
deriving Repr

namespace Table

/-- The cells on the sides of the text of a column. -/
def padding : Nat := 2

/-- The number of cells that the longest line of a text takes. -/
def widestLine (m : Marked) : Nat :=
  let isEnd (p : Text.Point) : Bool := p.char?.any Text.isLineEnd
  (m.points.foldl (fun (used, widest) p =>
    if isEnd p then (0, widest) else (used + cellsOf p, max widest (used + cellsOf p)))
    (0, 0)).2

/-- The greatest of some numbers. -/
def greatest (ns : List Nat) : Nat := ns.foldl max 0

/-- The sum of some numbers. -/
def total (ns : List Nat) : Nat := ns.foldl (· + ·) 0

/-- The widths with an excess taken off those that are equal to the greatest one, of which there are
`count` left: each gives an even part of what is left, but not more than `most`. -/
def reduce (widest most : Nat) : Nat → Nat → List Nat → List Nat
  | _, _, [] => []
  | excess, count, w :: rest =>
    if w = widest ∧ 0 < count then
      let part := min most (Double.roundDiv excess count)
      (w - part) :: reduce widest most (excess - part) (count - 1) rest
    else w :: reduce widest most excess count rest

/-- The widths made to fit into some room, the greatest first. The fuel bounds the number of
rounds. -/
def narrow (room : Nat) : Nat → List Nat → List Nat
  | 0, widths => widths
  | fuel + 1, widths =>
    let excess := total widths - room
    if excess = 0 then widths
    else
      let widest := greatest widths
      let next := greatest (widths.filter (· != widest))
      narrow room fuel
        (reduce widest (min excess (widest - next)) excess (widths.count widest) widths)

/-- The widths of columns, borders apart, whose texts have been read. -/
def widths (columns : List (List Marked)) : List Nat :=
  let room := screenWidth - (columns.length + 1)
  let wanted := columns.map fun texts => min room (padding + greatest (texts.map widestLine))
  narrow room (total wanted) wanted

/-- Shows a table. -/
def present (columns : List Column) : Except Fault Unit := do
  let read ← columns.mapM fun c => (c.title :: c.cells).mapM Marked.ofMarkup
  for (texts, width) in read.zip (widths read) do
    texts.forM fun m => m.presentIn (width - padding) .ellipsis

end Table

end SchemaToSwift.Status
