import SchemaToSwift.Schema.Basic
import SchemaToSwift.Text.Split

/-!
# Comments as source text

The comments at a place of a schema file become comment lines of generated code: detached blocks,
each followed by a blank line, and then the leading comment. Empty lines at the end of a comment
give no comment line.
-/

namespace SchemaToSwift

/-- The lines of a comment up to its trailing empty ones. -/
def commentLines (text : List Char) : List (List Char) :=
  ((Text.splitAt '\n' text).reverse.dropWhile (·.isEmpty)).reverse

/-- The comment lines of a text, each with the marker in front. -/
def markedLines (marker text : String) : String :=
  String.join ((commentLines text.toList).map fun line => marker ++ String.ofList line ++ "\n")

namespace Comments

/-- The detached blocks with a marker, each with a blank line after it. -/
def detachedText (marker : String) (blocks : List Json) : Except Fault String := do
  let texts ← blocks.mapM (·.asText .noOperation)
  return String.join (texts.map fun text => markedLines marker text ++ "\n")

/-- The leading comment with a marker. -/
def leadingText (marker : String) (leading : Json) : Except Fault String :=
  if leading.truthy then markedLines marker <$> leading.asText .noOperation else .ok ""

/-- The comment lines for the comments at a place; without a marker for them, the detached blocks
are left out. -/
def sourceText (c : Comments) (marker : String) (detachedMarker : Option String) :
    Except Fault String := do
  let detached ← match detachedMarker with
    | some m => detachedText m c.detached
    | none => pure ""
  return detached ++ (← leadingText marker c.leading)

end Comments

end SchemaToSwift
