import SchemaToSwift.Schema.Basic
import SchemaToSwift.Json.Parser

/-!
# Errors of schema files

What can be wrong with the description of a schema file or of a set of them, and the sentence that
says so. The sentence of an error with a cause ends where the text of the cause follows.
-/

namespace SchemaToSwift

/-- A place in the description of a schema file. -/
inductive SchemaPlace
  | enum
  | enumValue (enum : Json)
  | message
  | fieldOf (message : Json)
  | field (message field : Json)
  | extension
  | extensionNamed (name : Json)
  | dependency
deriving Repr

/-- The words for a place. -/
def SchemaPlace.text : SchemaPlace → String
  | .enum => "Enum"
  | .enumValue e => "Enum value of " ++ e.display
  | .message => "Message"
  | .fieldOf m => "Field of " ++ m.display
  | .field m f => "Field " ++ m.display ++ "." ++ f.display
  | .extension => "Extension"
  | .extensionNamed x => "Extension " ++ x.display
  | .dependency => "Dependency"

/-- What is wrong inside the description of a file whose name is known. -/
inductive SchemaProblem
  | missing (place : SchemaPlace) (key : String)
  | unknownType (name : String)
  | unknownLabel (name : String)
deriving Repr

/-- The sentence for a problem. -/
def SchemaProblem.message : SchemaProblem → String
  | .missing place key => place.text ++ " is missing '" ++ key ++ "'"
  | .unknownType name => "Unknown field type: " ++ name
  | .unknownLabel name => "Unknown field label: " ++ name

/-- Why a set of schema files cannot be read. -/
inductive SchemaError
  | notObject
  | nameless
  | problem (file : String) (problem : SchemaProblem)
  /-- A value of the wrong kind stands in the description. -/
  | malformed (file : String) (cause : Fault)
  | noFiles
  | wantedNotList
  | unknownFiles (names : List String)
  | noSuchFile (path : String)
  | badJson (path : String)
  | unreadable (path : String) (cause : Fault)
deriving Repr

namespace SchemaError

/-- The sentence for an error. -/
def message : SchemaError → String
  | .notObject => "File descriptor must be a JSON object"
  | .nameless => "File descriptor is missing 'name'"
  | .problem file p => file ++ ": " ++ p.message
  | .malformed file _ => file ++ ": invalid descriptor: "
  | .noFiles => "Descriptor set must contain a list of files"
  | .wantedNotList => "'file_to_generate' must be a list of names"
  | .unknownFiles names => "'file_to_generate' names unknown files: " ++ ", ".intercalate names
  | .noSuchFile path => "File not found: " ++ path
  | .badJson path => "Invalid JSON in file " ++ path ++ ": "
  | .unreadable path _ => "Error reading file " ++ path ++ ": "

end SchemaError

end SchemaToSwift
