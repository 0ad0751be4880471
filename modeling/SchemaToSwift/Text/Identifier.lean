import SchemaToSwift.Text.IdentifierTable

/-!
# Identifiers

A text is an identifier when it starts with a letter or an underscore and goes on with letters,
digits, marks and connectors, letters and marks of every script included.
-/

namespace SchemaToSwift.Text

/-- A character that may start an identifier. -/
def startsIdentifier (c : Char) : Bool :=
  if c.toNat < 128 then c.isAlpha || c == '_' else inRuns IdentifierTable.startRuns c.toNat

/-- A character that may stand after the first one of an identifier. -/
def continuesIdentifier (c : Char) : Bool :=
  if c.toNat < 128 then c.isAlphanum || c == '_' else inRuns IdentifierTable.continueRuns c.toNat

/-- Whether the text is an identifier. -/
def isIdentifier (s : String) : Bool :=
  match s.toList with
  | [] => false
  | c :: rest => startsIdentifier c && rest.all continuesIdentifier

end SchemaToSwift.Text
