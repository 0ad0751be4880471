import SchemaToSwift.Json.Basic
import SchemaToSwift.Number.Shortest
import SchemaToSwift.Text.Quoted

/-!
# Writing JSON

`Json.write` writes a value in ASCII: characters outside it become escapes of UTF-16 code units.
A layout says whether values stand on lines of their own. Members are written in their order;
`Json.byName` puts them in the order of their names before.
-/

namespace SchemaToSwift.Json

mutual

/-- The value with the members of every object in the order of their names. -/
def byName : Json → Json
  | .arr items => .arr (byNameItems items)
  | .obj members => .obj ((byNameMembers members).mergeSort fun a b => !Text.before b.1 a.1)
  | v => v

/-- The items of an array with the members of every object in order. -/
def byNameItems : List Json → List Json
  | [] => []
  | v :: vs => byName v :: byNameItems vs

/-- Members with the members of every object in their values in order. -/
def byNameMembers : List (String × Json) → List (String × Json)
  | [] => []
  | (name, v) :: ms => (name, byName v) :: byNameMembers ms

end

/-- How a document is laid out. -/
structure Layout where
  /-- The indentation of a nested line, or everything on one line. -/
  indent : Option Nat
deriving Repr, DecidableEq

/-- Everything on one line. -/
def Layout.compact : Layout := ⟨none⟩

/-- Two spaces for each level. -/
def Layout.lines : Layout := ⟨some 2⟩

namespace Writer

/-- The escape of a code unit. -/
def unitEscape (unit : Nat) : List Char := '\\' :: 'u' :: Text.hexDigits 4 unit

/-- The form of a character inside a string. -/
def escapeChar (c : Char) : List Char :=
  let n := c.toNat
  if c == '"' || c == '\\' then ['\\', c]
  else if c == '\n' then ['\\', 'n']
  else if c == '\r' then ['\\', 'r']
  else if c == '\t' then ['\\', 't']
  else if n == 8 then ['\\', 'b']
  else if n == 12 then ['\\', 'f']
  else if 32 ≤ n && n < 127 then [c]
  else if n < 0x10000 then unitEscape n
  else unitEscape (0xd800 + (n - 0x10000) / 1024) ++ unitEscape (0xdc00 + (n - 0x10000) % 1024)

/-- The form of a code point inside a string. -/
def escapePoint : Text.Point → List Char
  | .char c => escapeChar c
  | p => unitEscape p.code

/-- A string in quotes. -/
def string (s : String) : String :=
  String.ofList ('"' :: (Text.points s.toList).flatMap escapePoint ++ ['"'])

/-- A floating-point number; those that are no decimals are words. -/
def double : Double → String
  | .nan => "NaN"
  | .infinite negative => if negative then "-Infinity" else "Infinity"
  | d => d.text

/-- Parts between brackets at the given depth, each on its own line if the layout has lines. -/
def enclosed (layout : Layout) (depth : Nat) (left right : String) (parts : List String) :
    String :=
  if parts.isEmpty then left ++ right
  else match layout.indent with
    | none => left ++ ", ".intercalate parts ++ right
    | some n =>
      let line (d : Nat) := "\n" ++ String.ofList (List.replicate (n * d) ' ')
      left ++ line (depth + 1) ++ ("," ++ line (depth + 1)).intercalate parts ++ line depth ++ right

mutual

/-- A value at the given depth. -/
def value (layout : Layout) (depth : Nat) : Json → String
  | .null => "null"
  | .bool b => if b then "true" else "false"
  | .int n => toString n
  | .double d => double d
  | .str s => string s
  | .arr vs => enclosed layout depth "[" "]" (items layout (depth + 1) vs)
  | .obj ms =>
    enclosed layout depth "\x7b" "\x7d" (members layout (depth + 1) ms)

/-- The items of an array. -/
def items (layout : Layout) (depth : Nat) : List Json → List String
  | [] => []
  | v :: vs => value layout depth v :: items layout depth vs

/-- The members of an object. -/
def members (layout : Layout) (depth : Nat) : List (String × Json) → List String
  | [] => []
  | (name, v) :: ms => (string name ++ ": " ++ value layout depth v) :: members layout depth ms

end

end Writer

/-- The text of a value. -/
def write (layout : Layout) (v : Json) : String := Writer.value layout 0 v

end SchemaToSwift.Json
