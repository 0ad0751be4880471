import SchemaToSwift.Schema.Basic
import SchemaToSwift.Swift.Camel
import SchemaToSwift.Swift.TypePrefix
import SchemaToSwift.Swift.Word
import SchemaToSwift.Text.Digit

/-!
# Swift names of one file

A `NameTable` holds the Swift names of the types that a schema file declares, and knows how to name
everything else that its generated code mentions: types of other files, properties, enum cases and
extensions. It is built once for a file; `NameTable.entries` lists the declared types in order, and
of two declarations with one full name the later one counts. A name is a string unless both the
prefix and the declared name are numbers, which are added.
-/

namespace SchemaToSwift

/-- The Swift name of a declared type, with the file's prefix and without it. -/
structure SwiftName where
  full : Json
  short : Json
deriving Repr

/-- The name, shortened or not. -/
def SwiftName.pick (n : SwiftName) (shorten : Bool) : Json := if shorten then n.short else n.full

/-- The Swift names of one file. -/
structure NameTable where
  file : Schema
  /-- The module of each schema file. -/
  modules : List (Json × Json)
  runtimeModule : String
  /-- The prefix of top-level types. -/
  typePrefix : Json
  /-- The declared types by full name, in order of declaration. -/
  entries : List (String × SwiftName)

namespace NameTable

/-- The Swift form of a declared name: a reserved word stands between backticks. -/
def wordOf (name : Json) : Except Fault Json := do
  match ← name.asKey with
  | .str s => return .str (Swift.quoteReserved s)
  | v => return v

/-- A prefix with a word after it; a number after a number is added to it. -/
def prefixed (typePrefix word : Json) : Except Fault Json :=
  match typePrefix, word with
  | .str before, .str s => .ok (.str (before ++ s))
  | a, b => a.plus b

/-- The Swift name of a declaration inside a message, or at the top of a file with the given
prefix. -/
def nameIn (parent : Except Json SwiftName) (name : Json) : Except Fault SwiftName := do
  let word ← wordOf name
  match parent with
  | .ok p =>
    return ⟨.str ((← p.full.shown) ++ "." ++ word.display),
      .str (p.short.display ++ "." ++ word.display)⟩
  | .error typePrefix => return ⟨← prefixed typePrefix word, word⟩

/-- The entry of a declaration. Only a full name that is a string can be looked up. -/
def entry (fullName : Json) (name : SwiftName) : Except Fault (List (String × SwiftName)) := do
  match ← fullName.asKey with
  | .str s => return [(s, name)]
  | _ => return []

/-- The entry of an enum. -/
def enumEntry (parent : Except Json SwiftName) (e : EnumType) :
    Except Fault (List (String × SwiftName)) := do
  entry e.fullName (← nameIn parent e.name)

mutual

/-- The entries of a message, of its enums and of the messages nested in it. -/
def messageEntries (parent : Except Json SwiftName) :
    MessageType → Except Fault (List (String × SwiftName))
  | ⟨name, fullName, _, messages, enums, _⟩ => do
    let own ← nameIn parent name
    let first ← entry fullName own
    let ofEnums ← enums.mapM (enumEntry (.ok own))
    let ofMessages ← messagesEntries (.ok own) messages
    return first ++ ofEnums.flatten ++ ofMessages

/-- The entries of the messages of a list. -/
def messagesEntries (parent : Except Json SwiftName) :
    List MessageType → Except Fault (List (String × SwiftName))
  | [] => return []
  | m :: ms => do
    let first ← messageEntries parent m
    let rest ← messagesEntries parent ms
    return first ++ rest

end

/-- The names of a file. -/
def ofSchema (file : Schema) (modules : List (Json × Json)) (runtimeModule : String) :
    Except Fault NameTable := do
  let typePrefix ← Swift.typePrefixOf file.package file.swiftPrefix
  let enums ← file.enums.mapM (enumEntry (.error typePrefix))
  let messages ← messagesEntries (.error typePrefix) file.messages
  return { file, modules, runtimeModule, typePrefix, entries := enums.flatten ++ messages }

variable (t : NameTable)

/-- The qualifier of the runtime library's names, empty inside the library itself. -/
def runtimePrefix : String := if t.file.isBundled then "" else t.runtimeModule ++ "."

/-- The Swift name of a type that the file declares. -/
def declared? (fullName : String) : Option SwiftName := t.entries.reverse.lookup fullName

/-- The components of a full name: its package, which is made of the components at the start that
begin with a lower-case letter, and the names of the type. The last component is never package. -/
def splitPackage : List String → List String × List String
  | [] => ([], [])
  | [last] => ([], [last])
  | part :: rest =>
    if part.toList.head?.any Text.isLower then
      let (package, names) := splitPackage rest
      (part :: package, names)
    else ([], part :: rest)

/-- The Swift name of a type of another file, as its full name suggests it. -/
def foreignName (fullName : String) (shorten : Bool) : String :=
  let (package, names) := splitPackage (Text.parts '.' fullName)
  (if shorten then "" else Swift.packagePrefix (".".intercalate package)) ++
    ".".intercalate (names.map Swift.quoteReserved)

/-- The Swift name of the type with the given full name. -/
def typeName (fullName : String) (shorten : Bool) : Json :=
  let full := Text.dropLeading '.' fullName
  match t.declared? full with
  | some name => name.pick shorten
  | none => .str (foreignName full shorten)

/-- The Swift name of a declaration of the file. -/
def typeNameOf (fullName : Json) (shorten : Bool) : Except Fault Json := do
  return t.typeName (← fullName.asText .noOperation) shorten

/-- The scope of an extension in names of the file's level: the enclosing message with underscores
for dots, or the type prefix. -/
def extensionScope (fullName : String) (shorten : Bool) : Except Fault Json :=
  match t.declared? (Text.scopeOf (Text.dropLeading '.' fullName)) with
  | some name => do
    let text ← (name.pick shorten).asText .noOperation
    return .str (String.ofList (text.toList.map fun c => if c == '.' then '_' else c) ++ "_")
  | none => .ok (if shorten then .str "" else t.typePrefix)

/-- The property name of an extension. -/
def extensionName (fullName : String) (shorten : Bool) : Except Fault String := do
  let scope ← (← t.extensionScope fullName shorten).asText .wrongType
  return scope ++ Swift.lowerCamel (Text.lastComponent (Text.dropLeading '.' fullName))

end NameTable

/-- The Swift property name of a field. -/
def propertyName (field : String) : String := Swift.quoteReserved (Swift.lowerCamel field)

namespace EnumCase

/-- The name with an underscore before each capital that a lower-case letter follows, except at the
start. -/
def spaced (atStart : Bool) : List Char → List Char
  | c :: d :: rest =>
    if !atStart && c.isUpper && d.isLower then '_' :: c :: spaced false (d :: rest)
    else c :: spaced false (d :: rest)
  | cs => cs

/-- The prefix that the values of an enum usually have: its name in capitals with underscores. -/
def valuePrefix (enum : List Char) : List Char := Text.upperChars (spaced true enum) ++ ['_']

/-- The name of a value without the enum's prefix, unless no bare identifier would be left. The
prefix is taken off by its number of code points, which case may have changed. -/
def stripped (enum value : List Char) : List Char :=
  let start := valuePrefix enum
  let left := ((Text.points value).drop (Text.points start).length).flatMap Text.Point.chars
  if start.isPrefixOf (Text.upperChars value) && Swift.isBareChars left then left else value

/-- The Swift name of an enum case. -/
def name (enum value : String) : String :=
  Swift.quoteReserved (Swift.lowerCamel (String.ofList (stripped enum.toList value.toList)))

end EnumCase

end SchemaToSwift
