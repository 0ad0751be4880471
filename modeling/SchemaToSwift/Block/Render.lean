import SchemaToSwift.Block.Extension
import SchemaToSwift.Block.File
import SchemaToSwift.Block.Message
import SchemaToSwift.Json.Display
import SchemaToSwift.Text.Split

/-!
# Blocks from contexts

A block can also be asked for by name, with its variables in a JSON object. The variables are looked
up in the order in which the block uses them and only where it uses them; one that is missing is an
error, and any value stands for its text.
-/

namespace SchemaToSwift

/-- Why a named block cannot be given. -/
inductive BlockError
  | notFound (name : String)
  | undefined (name : String)
deriving Repr, DecidableEq

/-- The sentence for an error; the text of the cause follows it. -/
def BlockError.message : BlockError → String
  | .notFound name | .undefined name => "Failed to render template " ++ name ++ ": "

namespace Block

/-- Looking variables up: `none` as an error is a variable that is missing. -/
abbrev Lookup := Except (Failure Unit)

/-- A variable that has to be there. Only objects have variables. -/
def valueOf (context : Json) (name : String) : Lookup Json :=
  match context with
  | .obj members =>
    match members.lookup name with
    | some v => .ok v
    | none => .error (.reported ())
  | _ => .error (.reported ())

/-- The text of a variable. -/
def text (context : Json) (name : String) : Lookup String :=
  Json.display <$> valueOf context name

/-- Whether a variable counts as present. -/
def flag (context : Json) (name : String) : Lookup Bool := Json.truthy <$> valueOf context name

/-- The elements of a variable. -/
def elements (context : Json) (name : String) : Lookup (List Json) := do
  Failure.escape (← valueOf context name).elements

/-- The elements of a variable, none if it does not count as present. -/
def elementsIfAny (context : Json) (name : String) : Lookup (List Json) := do
  let v ← valueOf context name
  if v.truthy then Failure.escape v.elements else return []

/-- The text of a variable that is used only if there are elements. -/
def textIfUsed (used : Bool) (context : Json) (name : String) : Lookup String :=
  if used then text context name else return ""

/-- The declaration of an enum. -/
def enum (c : Json) : Lookup EnumBlock := do
  let lite ← flag c "lite"
  let access ← text c "visibility"
  let name ← text c "name"
  let runtimePrefix ← textIfUsed (!lite) c "prefix"
  let cases ← (← elements c "cases").mapM fun v => do
    return { name := ← text v "name", number := ← text v "number", protoName := "" }
  return { lite, access, runtimePrefix, name, cases, defaultCase := ← text c "default_case" }

/-- The extension of an enum. -/
def enumRuntime (c : Json) : Lookup EnumRuntimeBlock := do
  let name ← text c "name"
  let runtimePrefix ← text c "prefix"
  discard <| valueOf c "cases"
  let access ← text c "visibility"
  let cases ← (← elementsIfAny c "cases").mapM fun v => do
    return { number := ← text v "number", name := "", protoName := ← text v "proto_name" }
  return { access, runtimePrefix, name, cases }

/-- The head of a message. -/
def message (c : Json) : Lookup MessageBlock := do
  let access ← text c "visibility"
  let name ← text c "name"
  let lite ← flag c "lite"
  let runtimePrefix ← textIfUsed (!lite) c "prefix"
  let runtimeModule ← textIfUsed (!lite) c "runtime_module"
  let properties ← (← elements c "fields").mapM fun v => do
    return { name := ← text v "property", declaration := ← text v "declaration",
             initialValue := ← text v "initial" }
  return { lite, access, runtimePrefix, runtimeModule, name, properties }

/-- The extension of a message. -/
def messageRuntime (c : Json) : Lookup MessageRuntimeBlock := do
  let name ← text c "name"
  let runtimePrefix ← text c "prefix"
  let access ← text c "visibility"
  let protoName ← text c "proto_message_name"
  let fields ← (← elementsIfAny c "fields").mapM fun v => do
    return { number := ← text v "number", kind := ← text v "name_kind",
             protoName := ← text v "proto_name" }
  return { access, runtimePrefix, name, protoName, fields }

/-- The accessors of extensions. -/
def accessors (c : Json) : Lookup AccessorBlock := do
  let groups ← (← elements c "groups").mapM fun g => do
    let extendee ← text g "extendee"
    let accessors ← (← elements g "extensions").mapM fun x => do
      discard <| text c "visibility"
      let property ← text x "property"
      let valueType ← text x "value_type"
      let object ← text x "decl_name"
      let defaultValue ← text x "default_value"
      let repeated ← flag x "repeated"
      let suffix ← textIfUsed (!repeated) x "property_suffix"
      return AccessorText.mk property suffix valueType object defaultValue repeated
    return AccessorGroup.mk extendee accessors
  let access ← textIfUsed (groups.any (!·.accessors.isEmpty)) c "visibility"
  return { access, groups }

/-- The table of extensions. -/
def registry (c : Json) : Lookup RegistryBlock := do
  let name ← text c "registry_name"
  let runtimePrefix ← text c "prefix"
  let access ← text c "visibility"
  let objects ← (← elements c "extensions").mapM (text · "decl_name")
  return { access, runtimePrefix, name, objects }

/-- The extension objects. -/
def objects (c : Json) : Lookup ObjectBlock := do
  let items ← elements c "extensions"
  let access ← textIfUsed (!items.isEmpty) c "visibility"
  let objects ← items.mapM fun x => do
    let object ← text x "decl_name"
    discard <| text c "prefix"
    return { object, fieldType := ← text x "field_type", extendee := ← text x "extendee",
             number := ← text x "number", fullName := ← text x "full_name" }
  let runtimePrefix ← textIfUsed (!items.isEmpty) c "prefix"
  return { access, runtimePrefix, objects }

/-- The banner. -/
def banner (c : Json) : Lookup BannerBlock := do
  return { source := ← text c "source_name", mode := ← text c "mode",
           documentation := ← text c "documentation_url" }

/-- The check of the runtime library's version. -/
def version (c : Json) : Lookup VersionBlock := do
  return { runtimeModule := ← text c "runtime_module", runtimePrefix := ← text c "prefix",
           version := ← text c "version" }

end Block

/-- The kinds of blocks. -/
inductive BlockKind
  | banner | version | enum | enumRuntime | message | messageRuntime | accessors | registry
  | objects
deriving Repr, DecidableEq

namespace BlockKind

/-- All kinds of blocks. -/
def all : List BlockKind :=
  [banner, version, enum, enumRuntime, message, messageRuntime, accessors, registry, objects]

/-- The name of a kind of block. -/
def name : BlockKind → String
  | banner => "banner"
  | version => "version_check"
  | enum => "enum"
  | enumRuntime => "enum_runtime"
  | message => "message"
  | messageRuntime => "message_runtime"
  | accessors => "extension_properties"
  | registry => "extension_registry"
  | objects => "extension_declarations"

/-- The ending of the file names of blocks. -/
def ending : String := ".swift.j2"

/-- The text of a block in a context. -/
def fill (context : Json) : BlockKind → Block.Lookup String
  | banner => BannerBlock.text <$> Block.banner context
  | version => VersionBlock.text <$> Block.version context
  | enum => EnumBlock.text <$> Block.enum context
  | enumRuntime => EnumRuntimeBlock.text <$> Block.enumRuntime context
  | message => MessageBlock.text <$> Block.message context
  | messageRuntime => MessageRuntimeBlock.text <$> Block.messageRuntime context
  | accessors => AccessorBlock.text <$> Block.accessors context
  | registry => RegistryBlock.text <$> Block.registry context
  | objects => ObjectBlock.text <$> Block.objects context

/-- The kind of block that a slash-separated path leads to: empty components and single dots in
front of the file name do not count, and folders there are none. -/
def ofPath? (path : String) : Option BlockKind :=
  match (Text.parts '/' path).filter fun p => p != "" && p != "." with
  | [file] => all.find? fun kind => kind.name ++ ending == file
  | _ => none

end BlockKind

/-- The name that no variable of a block may have. -/
def Block.ownName : String := "self"

/-- The text of a named block in a context. -/
def Block.render (name : String) (context : Json) : Except (Failure BlockError) String :=
  match BlockKind.ofPath? name, context with
  | none, _ => .error (.reported (.notFound name))
  | some kind, .obj members =>
    if (members.lookup ownName).isSome then .error (.escaped .wrongType)
    else Failure.lift (fun _ => .undefined name) (kind.fill context)
  | some _, _ => .error (.escaped .wrongType)

end SchemaToSwift
