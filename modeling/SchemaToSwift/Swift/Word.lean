/-!
# Words of Swift

A bare identifier is made of ASCII letters, digits and underscores and does not start with a digit.
A reserved word is an identifier only between backticks, and `quoteReserved` puts it there.
-/

namespace SchemaToSwift.Swift

/-- The reserved words. -/
def reservedWords : List String := [
  "associatedtype", "class", "deinit", "enum", "extension", "fileprivate", "func", "import", "init",
  "inout", "internal", "let", "open", "operator", "private", "precedencegroup", "protocol",
  "public", "rethrows", "static", "struct", "subscript", "typealias", "var", "break", "case",
  "catch", "continue", "default", "defer", "do", "else", "fallthrough", "for", "guard", "if", "in",
  "repeat", "return", "throw", "switch", "where", "while", "Any", "as", "await", "false", "is",
  "nil", "self", "Self", "super", "throws", "true", "try"]

/-- A character that may start a bare identifier. -/
def startsBare (c : Char) : Bool := c.isAlpha || c == '_'

/-- A character that may stand in a bare identifier. -/
def isBareChar (c : Char) : Bool := c.isAlphanum || c == '_'

/-- Whether the characters make up a bare identifier. -/
def isBareChars : List Char → Bool
  | [] => false
  | c :: rest => startsBare c && rest.all isBareChar

/-- Whether the text is a bare identifier. -/
def isBare (s : String) : Bool := isBareChars s.toList

/-- The text between backticks. -/
def backticked (s : String) : String := "\x60" ++ s ++ "\x60"

/-- The characters between a backtick at either end, if there are any. -/
def insideBackticks? (cs : List Char) : Option (List Char) :=
  match cs with
  | '\x60' :: rest =>
    match rest.reverse with
    | '\x60' :: inside => if inside.isEmpty then none else some inside.reverse
    | _ => none
  | _ => none

/-- Whether the text is a bare identifier, or one between backticks. -/
def isBareOrBackticked (s : String) : Bool :=
  isBareChars ((insideBackticks? s.toList).getD s.toList)

/-- A reserved word between backticks, any other text as it is. -/
def quoteReserved (s : String) : String := if s ∈ reservedWords then backticked s else s

end SchemaToSwift.Swift
