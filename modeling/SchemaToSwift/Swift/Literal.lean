/-!
# String literals

The text between the quotes of a Swift string literal: the backslash, the double quote, line feed,
carriage return and tab are written as escapes, every other character as it is.
-/

namespace SchemaToSwift.Swift

/-- The form of a character inside a literal. -/
def literalChar (c : Char) : List Char :=
  if c == '\\' then ['\\', '\\']
  else if c == '"' then ['\\', '"']
  else if c == '\n' then ['\\', 'n']
  else if c == '\r' then ['\\', 'r']
  else if c == '\t' then ['\\', 't']
  else [c]

/-- The form of a text inside a literal. -/
def literal (s : String) : String := String.ofList (s.toList.flatMap literalChar)

end SchemaToSwift.Swift
