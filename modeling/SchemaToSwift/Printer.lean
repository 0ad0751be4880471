import SchemaToSwift.Text.Lines

/-!
# Printer

A printer collects text and puts its indentation in front of every line that is not empty. A line
begins at the start of the text and after a line feed; a text piece that goes on in the middle of a
line, or after another separator, is not indented.
-/

namespace SchemaToSwift

/-- Collected text, with the indentation of what comes next. -/
structure Printer where
  /-- The indentation of one level. -/
  unit : String
  level : Nat
  /-- The pieces of text, in order. -/
  pieces : Array String
  atLineStart : Bool
deriving Repr

namespace Printer

/-- A printer without text. -/
def new (unit : String) : Printer := ⟨unit, 0, #[], true⟩

/-- All text printed so far. -/
def content (p : Printer) : String := p.pieces.foldl (· ++ ·) ""

/-- Whether nothing has been printed. -/
def isEmpty (p : Printer) : Bool := p.pieces.isEmpty

/-- The indentation of a level. -/
def indentation (unit : String) (level : Nat) : String := String.join (List.replicate level unit)

/-- Whether a line holds nothing but its end. -/
def isBlankLine (line : List Char) : Bool := line == ['\n'] || line == ['\r', '\n']

/-- The printer with one line, or the piece of one, added. -/
def addLine : Printer → List Char → Printer
  | ⟨unit, level, pieces, atLineStart⟩, line =>
    let margin := indentation unit level
    let pieces :=
      if atLineStart && margin != "" && !isBlankLine line then pieces.push margin else pieces
    ⟨unit, level, pieces.push (String.ofList line), line.getLast? == some '\n'⟩

/-- The printer with a text added. -/
def add (p : Printer) (text : String) : Printer := (Text.lines text.toList).foldl addLine p

/-- The printer with texts added, each with a line feed after it. No texts at all are a blank
line. -/
def printLines (p : Printer) (texts : List String) : Printer :=
  (if texts.isEmpty then [""] else texts).foldl (fun p text => (p.add text).add "\n") p

/-- The printer with texts added, and nothing after them. -/
def printTexts (p : Printer) (texts : List String) : Printer := texts.foldl add p

/-- The printer one level further in. -/
def indent (p : Printer) : Printer := { p with level := p.level + 1 }

/-- The printer one level further out, unless it is at the outermost one. -/
def outdent? (p : Printer) : Option Printer :=
  match p.level with
  | 0 => none
  | n + 1 => some { p with level := n }

/-- The printer after a block that is printed one level further in. -/
def indented (p : Printer) (block : Printer → Printer) : Printer :=
  let q := block p.indent
  q.outdent?.getD q

end Printer

end SchemaToSwift
