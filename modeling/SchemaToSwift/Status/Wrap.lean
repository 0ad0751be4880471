import SchemaToSwift.Status.Marked

/-!
# Wrapping lines

A line that does not fit is broken before the words that do not fit any more. A word is what stands
between blanks, with the blanks after it, and the first one also has those before it. A word that
is longer than a line is broken as well, or made to fit a line of its own.
-/

namespace SchemaToSwift.Status

/-- The words of a line of which `current`, held in reverse, comes before the rest. `begun` says
whether a code point of it is not blank; nothing but blanks is no word. -/
def wordsFrom (begun : Bool) (current : List Text.Point) :
    List Text.Point → List (List Text.Point)
  | [] => if begun then [current.reverse] else []
  | p :: rest =>
    if begun && !Marked.isBlank p && current.head?.any Marked.isBlank then
      current.reverse :: wordsFrom true [p] rest
    else wordsFrom (begun || !Marked.isBlank p) (p :: current) rest

/-- The words of a line. -/
def words (ps : List Text.Point) : List (List Text.Point) := wordsFrom false [] ps

/-- The offsets at which pieces begin that come one after the other. -/
def startsOf (start : Nat) : List (List Text.Point) → List Nat
  | [] => []
  | piece :: rest => start :: startsOf (start + piece.length) rest

/-- The offsets at which a line of words is broken, from the word at an offset on, where the words
before it take `used` cells of the line. -/
def breaks (width : Nat) (overflow : Overflow) (start used : Nat) :
    List (List Text.Point) → List Nat
  | [] => []
  | word :: rest =>
    let next := start + word.length
    let size := cells (word.reverse.dropWhile Marked.isBlank)
    if used + size ≤ width then breaks width overflow next (used + cells word) rest
    else if width < size then
      let pieces := match overflow with
        | .fold => chop width word
        | .ellipsis => [word]
      (startsOf start pieces).filter (· != 0) ++
        breaks width overflow next (cells (pieces.getLast?.getD [])) rest
    else if used != 0 && start != 0 then
      start :: breaks width overflow next (cells word) rest
    else breaks width overflow next used rest

/-- The lines in which a text is shown. -/
def Marked.wrap (m : Marked) (width : Nat) (overflow : Overflow) : List Marked :=
  m.lines.flatMap fun line =>
    let line := line.withoutTabs
    (line.divide (breaks width overflow 0 0 (words line.points))).map fun part =>
      (part.trimBeyond width).fit width overflow

end SchemaToSwift.Status
