import SchemaToSwift.Names.Table

/-!
# Swift types of fields

The Swift type that stores a field, its default value and the wrapper that the runtime library has
for an extension of that type. A repeated field is an array, and a field whose type is a message or
a group is optional, as it can be absent. A name that is an integer too long for a text is a fault
where its text is needed.
-/

namespace SchemaToSwift

/-- How a stored property holds its value. -/
inductive Holding
  | value | optional | array
deriving Repr, DecidableEq

/-- The Swift type of a field. -/
structure StoredType where
  /-- The type of one value. -/
  name : Json
  defaultValue : String
  holding : Holding
deriving Repr

namespace StoredType

/-- The type as a declaration writes it. -/
def declaration (t : StoredType) : Except Fault Json := do
  match t.holding with
  | .value => return t.name
  | .optional => return .str ((← t.name.shown) ++ "?")
  | .array => return .str ("[" ++ (← t.name.shown) ++ "]")

/-- The value that a stored property starts with. -/
def initialValue (t : StoredType) : String :=
  match t.holding with
  | .value => t.defaultValue
  | .optional => "nil"
  | .array => "[]"

end StoredType

/-- A field type that Swift or Foundation has a type for. -/
structure ScalarType where
  name : String
  defaultValue : String
  /-- The type of the runtime library that reads and writes it. -/
  codec : String
deriving Repr, DecidableEq

namespace FieldType

/-- The Swift type for a field type; groups, messages and enums have none of their own. -/
def scalar? : FieldType → Option ScalarType
  | .double => some ⟨"Double", "0", "ProtobufDouble"⟩
  | .float => some ⟨"Float", "0", "ProtobufFloat"⟩
  | .int64 => some ⟨"Int64", "0", "ProtobufInt64"⟩
  | .uint64 => some ⟨"UInt64", "0", "ProtobufUInt64"⟩
  | .int32 => some ⟨"Int32", "0", "ProtobufInt32"⟩
  | .fixed64 => some ⟨"UInt64", "0", "ProtobufFixed64"⟩
  | .fixed32 => some ⟨"UInt32", "0", "ProtobufFixed32"⟩
  | .bool => some ⟨"Bool", "false", "ProtobufBool"⟩
  | .string => some ⟨"String", "String()", "ProtobufString"⟩
  | .bytes => some ⟨"Data", "Data()", "ProtobufBytes"⟩
  | .uint32 => some ⟨"UInt32", "0", "ProtobufUInt32"⟩
  | .sfixed32 => some ⟨"Int32", "0", "ProtobufSFixed32"⟩
  | .sfixed64 => some ⟨"Int64", "0", "ProtobufSFixed64"⟩
  | .sint32 => some ⟨"Int32", "0", "ProtobufSInt32"⟩
  | .sint64 => some ⟨"Int64", "0", "ProtobufSInt64"⟩
  | .group | .message | .enum => none

/-- The word for a declared type in the names of the runtime library. -/
def kindWord : FieldType → String
  | .enum => "Enum"
  | .group => "Group"
  | _ => "Message"

end FieldType

namespace NameTable

variable (t : NameTable)

/-- The Swift type of a field of the given type and label. -/
def storedType (type : FieldType) (label : Label) (typeName : String) (shorten : Bool) :
    Except Fault StoredType :=
  let single := if label = .repeated then Holding.array else .value
  match type.scalar? with
  | some s => .ok ⟨.str s.name, s.defaultValue, single⟩
  | none => do
    let name := t.typeName typeName shorten
    if type = .enum then return ⟨name, ".init()", single⟩
    else return ⟨name, (← name.shown) ++ "()", if label = .repeated then .array else .optional⟩

/-- The Swift type of a field. -/
def fieldType (f : Field) (shorten : Bool) : Except Fault StoredType :=
  t.storedType f.type f.label f.typeName shorten

/-- The Swift type that an accessor of an extension returns. -/
def extensionValueType (x : ExtensionField) (shorten : Bool) : Except Fault StoredType :=
  t.storedType x.type x.label x.typeName shorten

/-- The runtime library's wrapper for an extension. -/
def extensionFieldType (x : ExtensionField) (shorten : Bool) : Except Fault String := do
  let cardinality := if x.label = .repeated then "Repeated" else "Optional"
  match x.type.scalar? with
  | some s =>
    return t.runtimePrefix ++ cardinality ++ "ExtensionField<" ++ t.runtimePrefix ++ s.codec ++ ">"
  | none =>
    return t.runtimePrefix ++ cardinality ++ x.type.kindWord ++ "ExtensionField<" ++
      (← (t.typeName x.typeName shorten).shown) ++ ">"

end NameTable

end SchemaToSwift
