import SchemaToSwift.Text.Case
import SchemaToSwift.Text.Split

/-!
# Camel case

Names with underscores become names whose words are told apart by capitals. A name all in capitals
is put in lower case first; in any other name the inner capitals are kept.
-/

namespace SchemaToSwift.Swift

/-- The words of a name: what stands between its underscores. -/
def words (cs : List Char) : List (List Char) := (Text.splitAt '_' cs).filter (!·.isEmpty)

/-- The word with its first character in upper case. -/
def capitalize : List Char → List Char
  | [] => []
  | c :: rest => Text.upperChar c ++ rest

/-- The words joined, each with a capital. -/
def upperCamelChars (cs : List Char) : List Char :=
  let ws := if Text.allUpper cs then (words cs).map Text.lowerChars else words cs
  (ws.map capitalize).flatten

/-- How many characters at the start are put in lower case: the leading capitals, without the last
of several ones when it begins a word. -/
def leadingCapitals (cs : List Char) : Nat :=
  let n := (cs.takeWhile Text.isUpper).length
  if 1 < n ∧ n < cs.length then n - 1 else n

/-- The words joined, each but the first with a capital. -/
def lowerCamelChars (cs : List Char) : List Char :=
  let joined := upperCamelChars cs
  let n := leadingCapitals joined
  Text.lowerChars (joined.take n) ++ joined.drop n

/-- The name in upper camel case. -/
def upperCamel (s : String) : String := String.ofList (upperCamelChars s.toList)

/-- The name in lower camel case. -/
def lowerCamel (s : String) : String := String.ofList (lowerCamelChars s.toList)

end SchemaToSwift.Swift
