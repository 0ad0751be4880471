import SchemaToSwift.Block.Enum

/-!
# Blocks of extensions

The fixed text that a file's extensions give: accessor properties on the extended messages, the
table of all extensions of the file, and the extension objects that both refer to.
-/

namespace SchemaToSwift

/-- The accessors of an extension. -/
structure AccessorText where
  property : String
  /-- The end of the names of the other accessors. -/
  suffix : String
  valueType : String
  /-- The name of the extension object. -/
  object : String
  defaultValue : String
  repeated : Bool
deriving Repr, DecidableEq

/-- The accessors of the extensions of one message. -/
structure AccessorGroup where
  extendee : String
  accessors : List AccessorText
deriving Repr, DecidableEq

/-- The accessors of all extensions. -/
structure AccessorBlock where
  access : String
  groups : List AccessorGroup
deriving Repr, DecidableEq

namespace AccessorText

/-- The lines of an accessor. Only a single value can be absent or cleared. -/
def lines (access : String) (x : AccessorText) : List String :=
  ["",
    "  " ++ access ++ "var " ++ x.property ++ ": " ++ x.valueType ++ " \x7b",
    "    get \x7breturn getExtensionValue(ext: " ++ x.object ++ ") ?? " ++ x.defaultValue ++ "\x7d",
    "    set \x7bsetExtensionValue(ext: " ++ x.object ++ ", value: newValue)\x7d",
    "  \x7d"] ++
  if x.repeated then [] else [
    "  /// Returns true if extension `" ++ x.object ++ "`",
    "  /// has been explicitly set.",
    "  " ++ access ++ "var has" ++ x.suffix ++ ": Bool \x7b",
    "    return hasExtensionValue(ext: " ++ x.object ++ ")",
    "  \x7d",
    "  /// Clears the value of extension `" ++ x.object ++ "`.",
    "  /// Subsequent reads from it will return its default value.",
    "  " ++ access ++ "mutating func clear" ++ x.suffix ++ "() \x7b",
    "    clearExtensionValue(ext: " ++ x.object ++ ")",
    "  \x7d"]

end AccessorText

/-- The lines of a group. -/
def AccessorGroup.lines (access : String) (g : AccessorGroup) : List String :=
  ["", "extension " ++ g.extendee ++ " \x7b"] ++ g.accessors.flatMap (·.lines access) ++
    ["", "\x7d"]

/-- The text of the accessors. -/
def AccessorBlock.text (b : AccessorBlock) : String :=
  unlines (
    ["// MARK: - Extension Properties",
      "",
      "// Swift Extensions on the extended Messages to add easy access to the declared",
      "// extension fields. The names are based on the extension field name from the proto",
      "// declaration. To avoid naming collisions, the names are prefixed with the name of",
      "// the scope where the extend directive occurs."] ++
    b.groups.flatMap (·.lines b.access))

/-- The table of a file's extensions. -/
structure RegistryBlock where
  access : String
  runtimePrefix : String
  name : String
  /-- The names of the extension objects. -/
  objects : List String
deriving Repr, DecidableEq

namespace RegistryBlock

/-- The lines of the entries; all but the last end with a comma. -/
def entryLines : List String → List String
  | [] => []
  | [last] => ["  " ++ last]
  | object :: rest => ("  " ++ object ++ ",") :: entryLines rest

/-- The text of the table. -/
def text (b : RegistryBlock) : String :=
  "\n".intercalate (
    ["// MARK: - File's ExtensionMap: " ++ b.name,
      "",
      "/// A `" ++ b.runtimePrefix ++
        "SimpleExtensionMap` that includes all of the extensions defined by",
      "/// this .proto file. It can be used any place an `" ++ b.runtimePrefix ++
        "ExtensionMap` is needed",
      "/// in parsing, or it can be combined with other `" ++ b.runtimePrefix ++
        "SimpleExtensionMap`s to create",
      "/// a larger `" ++ b.runtimePrefix ++ "SimpleExtensionMap`.",
      b.access ++ "let " ++ b.name ++ ": " ++ b.runtimePrefix ++ "SimpleExtensionMap = ["] ++
    entryLines b.objects ++
    ["]"])

end RegistryBlock

/-- An extension object. -/
structure ObjectText where
  object : String
  fieldType : String
  extendee : String
  number : String
  fullName : String
deriving Repr, DecidableEq

/-- The extension objects of a file. -/
structure ObjectBlock where
  access : String
  runtimePrefix : String
  objects : List ObjectText
deriving Repr, DecidableEq

/-- The lines of an extension object. -/
def ObjectText.lines (access runtimePrefix : String) (x : ObjectText) : List String := [
  "",
  access ++ "let " ++ x.object ++ " = " ++ runtimePrefix ++ "MessageExtension<" ++ x.fieldType ++
    ", " ++ x.extendee ++ ">(",
  "  _protobuf_fieldNumber: " ++ x.number ++ ",",
  "  fieldName: \"" ++ Swift.literal x.fullName ++ "\"",
  ")"]

/-- The text of the extension objects. -/
def ObjectBlock.text (b : ObjectBlock) : String :=
  unlines (
    ["// Extension Objects - The only reason these might be needed is when manually",
      "// constructing a `SimpleExtensionMap`, otherwise, use the above _Extension Properties_",
      "// accessors for the extension fields on the messages directly."] ++
    b.objects.flatMap (·.lines b.access b.runtimePrefix))

end SchemaToSwift
