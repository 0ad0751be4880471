import SchemaToSwift.Fault
import SchemaToSwift.Number.Numeral
import SchemaToSwift.Status.ColorTable
import SchemaToSwift.Text.Case
import SchemaToSwift.Text.Split

/-!
# Styles of status lines

A style is a sequence of words: attributes such as `bold`, which `not` turns off, a colour, a colour
behind the text after `on`, and a target after `link`. `Style.normalForm` writes the same style
always in the same way; a text that is no style is its own normal form, but for blanks and capitals.
-/

namespace SchemaToSwift.Status

/-- A style. -/
structure Style where
  /-- The attributes that are set, on or off. -/
  attributes : List (String × Bool)
  color : Option String
  background : Option String
  link : Option String
deriving Repr, DecidableEq

namespace Style

/-- The style that says nothing. -/
def plain : Style := ⟨[], none, none, none⟩

/-- The attributes, in the order of normal forms. -/
def allAttributes : List String := [
  "bold", "dim", "italic", "underline", "blink", "blink2", "reverse", "conceal", "strike",
  "underline2", "frame", "encircle", "overline"]

/-- The short names of attributes. -/
def shortNames : List (String × String) := [
  ("d", "dim"), ("b", "bold"), ("i", "italic"), ("u", "underline"), ("r", "reverse"),
  ("c", "conceal"), ("s", "strike"), ("uu", "underline2"), ("o", "overline")]

/-- The attribute that a word names. -/
def attribute? (word : String) : Option String :=
  if word ∈ allAttributes then some word else shortNames.lookup word

/-- What stands in the parentheses after a word. -/
def argument? (word : String) (cs : List Char) : Option (List Char) :=
  let start := word.toList ++ ['(']
  if start.isPrefixOf cs && cs.getLast? == some ')' then some (cs.drop start.length).dropLast
  else none

/-- Whether a list of characters is six hexadecimal digits after a hash. -/
def isHexColor (cs : List Char) : Bool :=
  match cs with
  | '#' :: digits => digits.length == 6 && digits.all fun c => c.isDigit || ('a' ≤ c && c ≤ 'f')
  | _ => false

/-- Whether one to three digits are the number of a colour. -/
def isColorNumber (cs : List Char) : Bool :=
  !cs.isEmpty && cs.length ≤ 3 && cs.all Char.isDigit && (Numeral.natural? cs).any (· ≤ 255)

/-- Whether three components of a colour are in range. A component that is no numeral is a fault. -/
def areComponents (cs : List Char) : Except Fault Bool := do
  if cs.isEmpty || cs.any fun c => c != ',' && (Text.decimalValue? c).isNone then return false
  let parts := Text.splitAt ',' cs
  if parts.length != 3 then return false
  let values ← parts.mapM fun part =>
    match Numeral.natural? part with
    | some n => .ok n
    | none => .error (.badNumeral (String.ofList part))
  return values.all (· ≤ 255)

/-- The name of the colour that a word names. -/
def color? (word : String) : Except Fault (Option String) := do
  let name := Text.lower word
  let cs := name.toList
  if name = "default" || ColorTable.names.contains name || isHexColor cs then return some name
  if (argument? "color" cs).any isColorNumber then return some name
  match argument? "rgb" cs with
  | some inside => return if ← areComponents inside then some name else none
  | none => return none

/-- The style after more words, unless they make no sense. -/
def addWords (s : Style) : List String → Except Fault (Option Style)
  | [] => .ok (some s)
  | word :: rest =>
    match Text.lower word, rest with
    | "on", name :: rest => do
      match ← color? name with
      | some c => addWords { s with background := some c } rest
      | none => return none
    | "not", name :: rest =>
      match attribute? name with
      | some a => addWords { s with attributes := (a, false) :: s.attributes } rest
      | none => .ok none
    | "link", target :: rest => addWords { s with link := some target } rest
    | lowered, rest =>
      match attribute? lowered with
      | some a => addWords { s with attributes := (a, true) :: s.attributes } rest
      | none => do
        match ← color? lowered with
        | some c => addWords { s with color := some c } rest
        | none => return none

/-- The words of a text. -/
def wordsOf (s : String) : List String :=
  (Text.parts ' ' (s.map fun c => if Text.isBlank c then ' ' else c)).filter (· != "")

/-- The style that a text describes, if it describes one. -/
def ofText? (s : String) : Except Fault (Option Style) :=
  if Text.trim s = "none" then .ok (some plain) else addWords plain (wordsOf s)

/-- The text that describes a style. -/
def text (s : Style) : String :=
  let attributes := allAttributes.filterMap fun a =>
    (s.attributes.lookup a).map fun isOn => if isOn then a else "not " ++ a
  let others := s.color.toList ++ (s.background.map ("on " ++ ·)).toList ++
    (s.link.map ("link " ++ ·)).toList
  match attributes ++ others with
  | [] => "none"
  | words => " ".intercalate words

/-- The normal form of a text that may describe a style. -/
def normalForm (s : String) : Except Fault String := do
  match ← ofText? s with
  | some style => return style.text
  | none => return Text.lower (Text.trim s)

end Style

end SchemaToSwift.Status
