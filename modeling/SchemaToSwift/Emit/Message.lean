import SchemaToSwift.Block.Message
import SchemaToSwift.Emit.Enum
import SchemaToSwift.Emit.ExtensionSet

/-!
# Emission of a message

A `MessagePlan` holds the Swift name of a message, its stored properties and the plans of what is
nested in it. Building the plan adds the extensions declared in the message, at any depth, to the
extension set of the file. A message whose fields have no type name or share a property has no
stored properties but an error, which stops the emission where the message would be printed.
-/

namespace SchemaToSwift

/-- A stored property of a generated message. -/
structure FieldPlan where
  property : String
  /-- The type as the declaration writes it. -/
  declaration : Json
  initialValue : String
  number : Int
  protoName : String
deriving Repr

/-- A generated message. -/
structure MessagePlan where
  swiftName : Json
  /-- The name of the message inside its scope. -/
  name : String
  fields : Except (Failure GenerationError) (List FieldPlan)
  enums : List EnumPlan
  messages : List MessagePlan

namespace FieldPlan

/-- The plan for a field of a message, given the plans of the fields before it. -/
def make (t : NameTable) (shorten : Bool) (message : Json) (before : List FieldPlan) (f : Field) :
    Except (Failure GenerationError) FieldPlan := do
  if f.type.isNamed && f.typeName == "" then
    throw (.reported (.noTypeName t.file.name message f.name))
  let name ← Failure.escape (f.name.asText .noOperation)
  let property := propertyName name
  match before.find? (·.property == property) with
  | some first =>
    throw (.reported (.sameProperty t.file.name first.protoName name message property))
  | none =>
    let type ← Failure.escape (t.fieldType f shorten)
    let declaration ← Failure.escape type.declaration
    return { property, declaration, initialValue := type.initialValue, number := f.number,
             protoName := name }

/-- The plans for the fields of a message after those for the fields before them. -/
def makeAll (t : NameTable) (shorten : Bool) (message : Json) (before : List FieldPlan) :
    List Field → Except (Failure GenerationError) (List FieldPlan)
  | [] => .ok before
  | f :: rest => do
    let plan ← make t shorten message before f
    makeAll t shorten message (before ++ [plan]) rest

/-- The property as the block prints it. -/
def propertyText (f : FieldPlan) : Except Fault PropertyText := do
  return ⟨f.property, ← f.declaration.shown, f.initialValue⟩

/-- The entry of the table of proto names. -/
def nameEntry (f : FieldPlan) : NameMapEntry where
  number := toString f.number
  kind := if f.property = f.protoName then "same" else "standard"
  protoName := f.protoName

end FieldPlan

namespace MessagePlan

/-- Building plans while extensions are added to the set, which keeps them if building fails. -/
abbrev Build (α : Type) := ExtensionSet → ExtensionSet × Except Fault α

mutual

/-- The plan for a message. -/
def make (t : NameTable) (shorten : Bool) : MessageType → Build MessagePlan
  | ⟨name, fullName, fields, messages, enums, extensions⟩, set =>
    match t.typeNameOf fullName shorten with
    | .error fault => (set, .error fault)
    | .ok swiftName =>
      match set.add extensions with
      | (set, .error fault) => (set, .error fault)
      | (set, .ok ()) =>
        match enums.mapM (EnumPlan.make t shorten) with
        | .error fault => (set, .error fault)
        | .ok enums =>
          match makeAll t shorten messages set with
          | (set, .error fault) => (set, .error fault)
          | (set, .ok messages) =>
            (set, .ok {
              swiftName, name := name.display
              fields := FieldPlan.makeAll t shorten fullName [] fields
              enums, messages })

/-- The plans for the messages of a list. -/
def makeAll (t : NameTable) (shorten : Bool) : List MessageType → Build (List MessagePlan)
  | [], set => (set, .ok [])
  | m :: ms, set =>
    match make t shorten m set with
    | (set, .error fault) => (set, .error fault)
    | (set, .ok plan) =>
      match makeAll t shorten ms set with
      | (set, .error fault) => (set, .error fault)
      | (set, .ok plans) => (set, .ok (plan :: plans))

end

/-- The head of the declaration. -/
def head (s : Surroundings) (swiftName : String) (properties : List PropertyText) :
    MessageBlock where
  lite := s.lite
  access := s.access
  runtimePrefix := s.runtimePrefix
  runtimeModule := s.runtimeModule
  name := Text.lastComponent swiftName
  properties := properties

/-- The expression of the proto name: that of the enclosing message, or the package, with the name
appended. -/
def protoName (hasPackage : Bool) (swiftName name : String) : String :=
  let parent := Text.scopeOf swiftName
  if parent != "" then parent ++ ".protoMessageName + \"." ++ name ++ "\""
  else if hasPackage then "_protobuf_package + \"." ++ name ++ "\""
  else "\"" ++ name ++ "\""

/-- The runtime support of the message itself. -/
def runtimeBlock (s : Surroundings) (hasPackage : Bool) (swiftName name : String)
    (fields : List FieldPlan) : MessageRuntimeBlock where
  access := s.access
  runtimePrefix := s.runtimePrefix
  name := swiftName
  protoName := protoName hasPackage swiftName name
  fields := fields.map (·.nameEntry)

mutual

/-- Prints the declaration after a blank line: the head, the nested declarations one level further
in, and the initialiser. -/
def declaration (s : Surroundings) : MessagePlan → Emission
  | ⟨swiftName, _, fields, enums, messages⟩ =>
    .on fields fun fields => .all [
      .lines [],
      .onValue (swiftName.asText .noOperation) fun swiftName =>
        .onValue (fields.mapM (·.propertyText)) fun properties =>
          .lines [Text.dropTrailing '\n' (head s swiftName properties).text],
      .inside (.andThen (.all (enums.map (·.declaration s))) (declarations s messages)),
      .lines [],
      .inside (.lines [s.access ++ "init() \x7b\x7d"]),
      .lines ["\x7d"]]

/-- Prints the declarations of a list. -/
def declarations (s : Surroundings) : List MessagePlan → Emission
  | [] => .nothing
  | m :: ms => .andThen (declaration s m) (declarations s ms)

end

mutual

/-- Prints the runtime support after a blank line, and that of what is nested after it. -/
def runtimeSupport (s : Surroundings) (hasPackage : Bool) : MessagePlan → Emission
  | ⟨swiftName, name, fields, enums, messages⟩ => .all [
      .lines [],
      .onValue (swiftName.asText .noOperation) fun swiftName => .on fields fun fields =>
        .lines [Text.dropTrailing '\n' (runtimeBlock s hasPackage swiftName name fields).text],
      .all (enums.map (·.runtimeSupport s)),
      runtimeSupports s hasPackage messages]

/-- Prints the runtime support of the messages of a list. -/
def runtimeSupports (s : Surroundings) (hasPackage : Bool) : List MessagePlan → Emission
  | [] => .nothing
  | m :: ms => .andThen (runtimeSupport s hasPackage m) (runtimeSupports s hasPackage ms)

end

end MessagePlan

end SchemaToSwift
