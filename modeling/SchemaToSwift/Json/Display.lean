import SchemaToSwift.Json.Basic
import SchemaToSwift.Number.Numeral
import SchemaToSwift.Number.Shortest
import SchemaToSwift.Text.Quoted

/-!
# The text of a value in messages and names

`Json.display` is how a value stands in a sentence or in generated code, and `Json.quoted` how it
is shown as a value: the two differ on strings only, which are quoted in the second and inside
arrays and objects. No document holds an integer of more than `Numeral.maxDigits` digits, but a sum
of two can have more, and then it has no text: `Json.shown` is the text where a sum may stand.
-/

namespace SchemaToSwift.Json

mutual

/-- The text that shows a value. -/
def quoted : Json → String
  | .null => "None"
  | .bool b => if b then "True" else "False"
  | .int n => toString n
  | .double d => d.text
  | .str s => Text.quoted s
  | .arr items => "[" ++ ", ".intercalate (quotedItems items) ++ "]"
  | .obj members => "\x7b" ++ ", ".intercalate (quotedMembers members) ++ "\x7d"

/-- The texts that show the items of an array. -/
def quotedItems : List Json → List String
  | [] => []
  | v :: vs => quoted v :: quotedItems vs

/-- The texts that show the members of an object. -/
def quotedMembers : List (String × Json) → List String
  | [] => []
  | (name, v) :: ms => (Text.quoted name ++ ": " ++ quoted v) :: quotedMembers ms

end

/-- The text of a value inside a sentence: a string stands for itself. -/
def display : Json → String
  | .str s => s
  | v => quoted v

/-- The text of a value inside a sentence, unless it is an integer of too many digits. -/
def shown : Json → Except Fault String
  | .int n => if Numeral.isTooLong n then .error .badValue else .ok (display (.int n))
  | v => .ok (display v)

@[simp] theorem shown_str (s : String) : shown (.str s) = .ok s := rfl

@[simp] theorem display_str (s : String) : display (.str s) = s := rfl

end SchemaToSwift.Json
