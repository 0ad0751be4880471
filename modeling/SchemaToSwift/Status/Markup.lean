import SchemaToSwift.Status.Literal
import SchemaToSwift.Status.Marked
import SchemaToSwift.Status.Style
import SchemaToSwift.Text.Alphanumeric

/-!
# Tags of status lines

The status lines of a run may hold tags in brackets: `[name]` opens a style, `[/name]` closes the
last one of that name, and `[/]` the last one of all. A backslash before a bracket makes it part of
the text. `Marked.ofMarkup` reads a line with tags; one that closes nothing is a fault, and so is a
handler whose arguments are no literal when it is closed. Styles that stay open reach to the end.
-/

namespace SchemaToSwift.Status

/-- A tag: a name and, after an equals sign, parameters. -/
structure Tag where
  name : String
  parameters : Option String
deriving Repr, DecidableEq

namespace Tag

/-- A character that a tag may begin with. -/
def startsTag (c : Char) : Bool := ('a' ≤ c && c ≤ 'z') || c == '#' || c == '/' || c == '@'

/-- The tag that stands in brackets. -/
def ofBody (body : List Char) : Tag :=
  let (name, parameters) := Text.cut '=' body
  ⟨String.ofList name, parameters.map String.ofList⟩

/-- The text of the style that a tag opens. -/
def styleText (tag : Tag) : String :=
  match tag.parameters with
  | some p => tag.name ++ " " ++ p
  | none => tag.name

/-- The arguments of a handler: what stands in parentheses after its name, if it has the form of a
call, or else the whole text. A name alone has no arguments. -/
def handlerArguments (s : String) : String :=
  let isNameChar (c : Char) : Bool := Text.isAlphanumeric c || c == '_' || c == '.'
  let after := s.toList.dropWhile isNameChar
  match after with
  | [] => "()"
  | '(' :: inside =>
    if inside.getLast? == some ')' && !after.contains '\n' then String.ofList after else s
  | _ => s

/-- Whether a tag is that of a handler, which is no style. -/
def isHandler (tag : Tag) : Bool := tag.name.toList.head? == some '@'

/-- Whether a tag can be closed. The parameters of a handler have to hold a literal. -/
def canClose (tag : Tag) : Bool :=
  match tag.parameters with
  | some p => !tag.isHandler || p = "" || isLiteral (handlerArguments (Text.trim p))
  | none => true

end Tag

/-- A piece of a line with tags. -/
inductive Piece
  | text (cs : List Char)
  | tag (tag : Tag)
deriving Repr, DecidableEq

namespace Piece

/-- The tag that a bracket opens and the input after it, if it does: its name begins with one of a
few characters, and there is no bracket in it. -/
def tag? (cs : List Char) : Option (List Char × List Char) :=
  match cs.span fun c => c != '[' && c != ']' with
  | (body, ']' :: rest) => if body.head?.any Tag.startsTag then some (body, rest) else none
  | _ => none

/-- The pieces that backslashes give before a tag: two of them are one, and one that is left over
makes the tag a part of the text. -/
def escaped (backslashes : Nat) (body : List Char) : List Piece :=
  let here := if backslashes % 2 = 0 then tag (.ofBody body) else text ('[' :: body ++ [']'])
  [text (List.replicate (backslashes / 2) '\\'), here]

/-- The pieces of a text of which `current`, held in reverse, and then some backslashes come before
the input. The fuel bounds the number of characters. -/
def scan : Nat → List Char → Nat → List Char → List Piece
  | 0, _, _, _ => []
  | _, current, backslashes, [] => [text (List.replicate backslashes '\\' ++ current).reverse]
  | fuel + 1, current, backslashes, c :: rest =>
    if c == '\\' then scan fuel current (backslashes + 1) rest
    else
      let passed := c :: List.replicate backslashes '\\' ++ current
      if c == '[' then
        match tag? rest with
        | some (body, rest) =>
          text current.reverse :: escaped backslashes body ++ scan fuel [] 0 rest
        | none => scan fuel passed 0 rest
      else scan fuel passed 0 rest

/-- The pieces of a line. -/
def ofLine (s : String) : List Piece := scan (s.length + 1) [] 0 s.toList

/-- A text without the backslashes before brackets that are no tags. -/
def unescaped : List Char → List Char
  | '\\' :: '[' :: rest => '[' :: unescaped rest
  | c :: rest => c :: unescaped rest
  | [] => []

/-- A control that no text shows. -/
def isControl (c : Char) : Bool := [7, 8, 11, 12, 13].contains c.toNat

/-- The code points that a piece of text shows. -/
def shown (cs : List Char) : List Text.Point :=
  Text.points ((unescaped cs).filter (!isControl ·))

end Piece

/-- A line that has been read in part: what it shows so far, and the open tags, the last one first,
with the offsets at which they begin. -/
structure Reading where
  shown : Marked
  opened : List (Nat × Tag)
deriving Repr

namespace Reading

/-- The first open tag of a name, and the others. -/
def takeNamed (name : String) : List (Nat × Tag) → Option ((Nat × Tag) × List (Nat × Tag))
  | [] => none
  | t :: rest =>
    if t.2.name = name then some (t, rest)
    else (takeNamed name rest).map fun (found, others) => (found, t :: others)

/-- The text with a span from an offset to its end. -/
def mark (m : Marked) (start : Nat) (tag : Tag) : Marked :=
  { m with spans := m.spans ++ [⟨start, m.length, tag.styleText⟩] }

/-- What has been read after a tag that closes the last one of a name, or the last one of all. -/
def close (r : Reading) (name : String) : Except Fault Reading := do
  let found ← if name = "" then
      pure (match r.opened with
        | [] => none
        | t :: rest => some (t, rest))
    else pure (takeNamed (← Style.normalForm name) r.opened)
  match found with
  | some ((start, tag), opened) =>
    if !tag.canClose then throw .badMarkup
    return ⟨if tag.isHandler then r.shown else mark r.shown start tag, opened⟩
  | none => throw .badMarkup

/-- What has been read after one more piece. -/
def follow (r : Reading) : Piece → Except Fault Reading
  | .text cs => return { r with shown := r.shown.append ⟨Piece.shown cs, []⟩ }
  | .tag tag => do
    match tag.name.toList with
    | '/' :: closing => r.close (Text.trim (String.ofList closing))
    | _ =>
      let opened := { tag with name := ← Style.normalForm tag.name }
      return { r with opened := (r.shown.length, opened) :: r.opened }

/-- The line, in which open styles reach to the end. -/
def finish (r : Reading) : Marked := r.opened.foldl (fun m (start, tag) => mark m start tag) r.shown

end Reading

/-- The text that a line with tags shows. -/
def Marked.ofMarkup (line : String) : Except Fault Marked := do
  return (← (Piece.ofLine line).foldlM Reading.follow ⟨⟨[], []⟩, []⟩).finish

end SchemaToSwift.Status
