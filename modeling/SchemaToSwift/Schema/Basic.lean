import SchemaToSwift.Json.Display

/-!
# Schema files

A schema file declares enums, messages and extensions, names the files it depends on and carries
source comments. Names, comments and the other free texts are JSON values as they were given:
decoding does not check that they are strings. Numbers, types, labels and the full names that a
declaration refers to are checked.
-/

namespace SchemaToSwift

/-- The types of fields. -/
inductive FieldType
  | double | float | int64 | uint64 | int32 | fixed64 | fixed32 | bool | string | group | message
  | bytes | uint32 | enum | sfixed32 | sfixed64 | sint32 | sint64
deriving Repr, DecidableEq

namespace FieldType

/-- All types of fields. -/
def all : List FieldType := [
  .double, .float, .int64, .uint64, .int32, .fixed64, .fixed32, .bool, .string, .group, .message,
  .bytes, .uint32, .enum, .sfixed32, .sfixed64, .sint32, .sint64]

/-- The name of a type in schema files. -/
def name : FieldType → String
  | .double => "double"
  | .float => "float"
  | .int64 => "int64"
  | .uint64 => "uint64"
  | .int32 => "int32"
  | .fixed64 => "fixed64"
  | .fixed32 => "fixed32"
  | .bool => "bool"
  | .string => "string"
  | .group => "group"
  | .message => "message"
  | .bytes => "bytes"
  | .uint32 => "uint32"
  | .enum => "enum"
  | .sfixed32 => "sfixed32"
  | .sfixed64 => "sfixed64"
  | .sint32 => "sint32"
  | .sint64 => "sint64"

/-- The type of a name. -/
def ofName? (name : String) : Option FieldType := all.find? (·.name == name)

/-- A type whose values are of a declared type, which has a name. -/
def isNamed : FieldType → Bool
  | .group | .message | .enum => true
  | _ => false

end FieldType

/-- How often a field occurs. -/
inductive Label
  | optional | required | repeated
deriving Repr, DecidableEq

namespace Label

/-- The name of a label in schema files. -/
def name : Label → String
  | .optional => "optional"
  | .required => "required"
  | .repeated => "repeated"

/-- The label of a name. -/
def ofName? (name : String) : Option Label :=
  [optional, required, repeated].find? (·.name == name)

end Label

/-- A field of a message. -/
structure Field where
  name : Json
  number : Int
  type : FieldType
  label : Label
  /-- The full name of the field's declared type, empty if it has none. -/
  typeName : String
  jsonName : Json
deriving Repr

/-- A value of an enum. -/
structure EnumValue where
  name : Json
  number : Int
deriving Repr

/-- An enum. -/
structure EnumType where
  name : Json
  fullName : Json
  values : List EnumValue
deriving Repr

/-- A field that is added to a message declared elsewhere. -/
structure ExtensionField where
  name : Json
  fullName : Json
  number : Int
  type : FieldType
  /-- The full name of the extended message. -/
  extendee : String
  label : Label
  typeName : String
deriving Repr

/-- A message with the declarations nested in it. -/
structure MessageType where
  name : Json
  fullName : Json
  fields : List Field
  messages : List MessageType
  enums : List EnumType
  extensions : List ExtensionField
deriving Repr

/-- The comments at one place of a schema file. -/
structure Comments where
  leading : Json
  trailing : Json
  detached : List Json
deriving Repr

/-- A file that is depended on, with the files it makes visible. -/
structure Dependency where
  name : Json
  isPublic : Bool
  reexports : List Dependency
deriving Repr

/-- A schema file. -/
structure Schema where
  name : String
  package : Json
  /-- The version of the schema language. -/
  dialect : Json
  edition : Json
  /-- The prefix of type names that the file asks for. -/
  swiftPrefix : Json
  enums : List EnumType
  messages : List MessageType
  extensions : List ExtensionField
  dependencies : List Dependency
  /-- Comments by structural path; a path occurs once. -/
  comments : List (List Json × Comments)
deriving Repr

namespace MessageType

mutual

/-- The message and all messages nested in it, each before those nested in it. -/
def subtree : MessageType → List MessageType
  | m@⟨_, _, _, messages, _, _⟩ => m :: subtrees messages

/-- The messages of a list and all messages nested in them, in order of declaration. -/
def subtrees : List MessageType → List MessageType
  | [] => []
  | m :: ms => subtree m ++ subtrees ms

end

/-- Whether a field or an extension declared in the message itself is of type bytes. -/
def usesBytes (m : MessageType) : Bool :=
  m.fields.any (·.type == .bytes) || m.extensions.any (·.type == .bytes)

end MessageType

namespace Schema

variable (f : Schema)

/-- All messages of the file, nested ones included, in order of declaration. -/
def allMessages : List MessageType := MessageType.subtrees f.messages

/-- Whether the file declares anything. -/
def definesTypes : Bool := !f.enums.isEmpty || !f.messages.isEmpty || !f.extensions.isEmpty

/-- The schema files whose generated code is part of the runtime library. -/
def bundledNames : List String :=
  ["any", "api", "descriptor", "duration", "empty", "field_mask", "source_context", "struct",
    "timestamp", "type", "wrappers"].map fun n => "google/protobuf/" ++ n ++ ".proto"

/-- Whether the generated code of the file is part of the runtime library. -/
def isBundled : Bool := f.name ∈ bundledNames

/-- Whether some field or extension of the file is of type bytes, whose values need Foundation. -/
def needsFoundation : Bool :=
  f.extensions.any (·.type == .bytes) || f.allMessages.any (·.usesBytes)

/-- The comments at a structural path. -/
def commentsAt (path : List Json) : Option Comments :=
  (f.comments.find? fun entry => Json.sameItems entry.1 path).map (·.2)

end Schema

end SchemaToSwift
