import SchemaToSwift.Status.Cells
import SchemaToSwift.Text.Blank

/-!
# Marked texts

A `Marked` is a text with spans, each of which has a style. A cut through a text cuts the spans with
it, and of a span that is cut a part without a code point vanishes. Only a text that is left whole
keeps the spans around nothing.
-/

namespace SchemaToSwift.Status

/-- A stretch of a text, from an offset up to another, and the text of its style. -/
structure Span where
  start : Nat
  stop : Nat
  style : String
deriving Repr, DecidableEq

/-- A text with spans. -/
structure Marked where
  points : List Text.Point
  spans : List Span
deriving Repr

namespace Marked

/-- The number of code points. -/
def length (m : Marked) : Nat := m.points.length

/-- The part of a span between two offsets, as seen from the first one. -/
def spanBetween (start stop : Nat) (s : Span) : Option Span :=
  let first := max start s.start
  let last := min stop s.stop
  if first < last then some ⟨first - start, last - start, s.style⟩ else none

/-- The part of a text between two offsets. -/
def between (m : Marked) (start stop : Nat) : Marked :=
  ⟨(m.points.take stop).drop start, m.spans.filterMap (spanBetween start stop)⟩

/-- The parts of a text between offsets, or the text itself if there are none. -/
def divide (m : Marked) (offsets : List Nat) : List Marked :=
  if offsets.isEmpty then [m]
  else List.zipWith m.between (0 :: offsets) (offsets ++ [m.length])

/-- The first text with the second one after it. -/
def append (m n : Marked) : Marked :=
  let move (s : Span) : Span := { s with start := m.length + s.start, stop := m.length + s.stop }
  ⟨m.points ++ n.points, m.spans ++ n.spans.map move⟩

/-- The offsets at which a character stands. -/
def offsetsOf (m : Marked) (c : Char) : List Nat :=
  m.points.zipIdx.filterMap fun (p, n) => if p = .char c then some n else none

/-- The lines of a text, without the line feeds between them. -/
def lines (m : Marked) : List Marked :=
  (m.divide ((m.offsetsOf '\n').flatMap fun n => [n, n + 1])).filter
    (·.points != [.char '\n'])

/-- The distance from one tab stop to the next. -/
def tabWidth : Nat := 8

/-- A part of a line that ends with a tab and begins at the given cell, with blanks up to the next
tab stop in place of the tab. A span that reaches the end reaches the new one. -/
def fillToStop (column : Nat) (m : Marked) : Marked :=
  let filled := m.points.dropLast ++ [blank]
  let spaces := (tabWidth - (column + cells filled) % tabWidth) % tabWidth
  let reach (s : Span) : Span :=
    if m.length ≤ s.stop then { s with stop := s.stop + spaces } else s
  ⟨filled ++ List.replicate spaces blank, m.spans.map reach⟩

/-- The line that the parts of one make up when each tab at the end of a part is filled, after what
comes before them. -/
def joinFilled (before : Marked) : List Marked → Marked
  | [] => before
  | part :: rest =>
    let filled :=
      if part.points.getLast? == some (.char '\t') then part.fillToStop (cells before.points)
      else part
    joinFilled (before.append filled) rest

/-- The line with blanks in place of tabs. -/
def withoutTabs (m : Marked) : Marked :=
  match m.offsetsOf '\t' with
  | [] => m
  | offsets => joinFilled ⟨[], []⟩ (m.divide (offsets.map (· + 1)))

/-- The text with its points up to an offset, and the spans that begin before it. -/
def crop (m : Marked) (size : Nat) : Marked :=
  let fit (s : Span) : Option Span :=
    if s.start < size then some { s with stop := min s.stop size } else none
  ⟨m.points.take size, m.spans.filterMap fit⟩

/-- A blank code point. -/
def isBlank (p : Text.Point) : Bool := p.char?.any Text.isBlank

/-- The text without the blanks at its end that are beyond a number of code points. -/
def trimBeyond (m : Marked) (size : Nat) : Marked :=
  let blanks := (m.points.reverse.takeWhile isBlank).length
  if size < m.length ∧ 0 < blanks then m.crop (m.length - min blanks (m.length - size)) else m

end Marked

/-- What becomes of a text that is too long for a line. -/
inductive Overflow
  /-- Words go on in the next line. -/
  | fold
  /-- What does not fit is left out, with a mark in its place. -/
  | ellipsis
deriving Repr, DecidableEq

/-- The mark for what is left out. -/
def ellipsis : Text.Point := .char '…'

/-- The text made to fit into a line. Spans are cut where it has fewer code points than before. -/
def Marked.fit (m : Marked) (width : Nat) (overflow : Overflow) : Marked :=
  if cells m.points ≤ width then m
  else
    let points := match overflow with
      | .fold => cutTo width m.points
      | .ellipsis => cutTo (width - 1) m.points ++ [ellipsis]
    let spans := if points.length < m.length then (m.crop points.length).spans else m.spans
    ⟨points, spans⟩

end SchemaToSwift.Status
