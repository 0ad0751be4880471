import SchemaToSwift.Status.Markup
import SchemaToSwift.Status.Wrap

/-!
# Showing status lines

A status line is read, wrapped to the width of the screen and shown with the styles of its spans. A
style that is none leaves the text as it is, but one with a component of a colour that is no numeral
is a fault where a line is shown that it reaches into.
-/

namespace SchemaToSwift.Status

/-- The number of cells in a line of the screen. -/
def screenWidth : Nat := 80

/-- Shows a line: meets the fault of the first style that cannot be read. -/
def Marked.present (m : Marked) : Except Fault Unit :=
  m.spans.forM fun s => discard (Style.ofText? s.style)

/-- Shows a text in lines of the given width. -/
def Marked.presentIn (m : Marked) (width : Nat) (overflow : Overflow) : Except Fault Unit :=
  (m.wrap width overflow).forM Marked.present

/-- Shows a status line. -/
def presentLine (line : String) : Except Fault Unit := do
  (← Marked.ofMarkup line).presentIn screenWidth .fold

end SchemaToSwift.Status
