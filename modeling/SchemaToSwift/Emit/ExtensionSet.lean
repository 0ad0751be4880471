import SchemaToSwift.Block.Extension
import SchemaToSwift.Emit.Basic
import SchemaToSwift.Swift.StoredType

/-!
# Emission of extensions

An `ExtensionSet` collects the extensions declared in a file, each full name once, in the order in
which they were first added. Its plans print the accessors, the table of the file's extensions and
the extension objects.
-/

namespace SchemaToSwift

/-- Extensions by full name. -/
structure ExtensionSet where
  entries : List ExtensionField
deriving Repr

namespace ExtensionSet

/-- The set without extensions. -/
def empty : ExtensionSet := ⟨[]⟩

/-- Whether the set has no extensions. -/
def isEmpty (set : ExtensionSet) : Bool := set.entries.isEmpty

/-- The set with an extension, unless it holds one of the same full name. -/
def insert (set : ExtensionSet) (x : ExtensionField) : ExtensionSet :=
  if set.entries.any (·.fullName.same x.fullName) then set else ⟨set.entries ++ [x]⟩

/-- The set with extensions added in order, up to one whose full name cannot be a key. -/
def add (set : ExtensionSet) : List ExtensionField → ExtensionSet × Except Fault Unit
  | [] => (set, .ok ())
  | x :: rest => if x.fullName.isKey then (set.insert x).add rest else (set, .error .wrongType)
termination_by xs => xs.length

end ExtensionSet

/-- A generated extension. -/
structure ExtensionPlan where
  property : String
  /-- The end of the names of the accessors that tell and clear its presence. -/
  suffix : String
  /-- The name of the extension object. -/
  object : String
  valueType : String
  defaultValue : String
  repeated : Bool
  fieldType : String
  /-- The Swift name of the extended message. -/
  extendee : Json
  number : Int
  fullName : String
deriving Repr

namespace ExtensionPlan

/-- The plan for an extension. Its property name has to have a first character. -/
def make (t : NameTable) (x : ExtensionField) : Except Fault ExtensionPlan := do
  let valueType ← t.extensionValueType x false
  let fullName ← x.fullName.asText .noOperation
  let property ← t.extensionName fullName false
  match property.toList with
  | [] => throw .noElement
  | c :: rest =>
    let scope ← (← t.extensionScope fullName false).asText .wrongType
    let declaration ← (← valueType.declaration).asText .noOperation
    return {
      property
      suffix := String.ofList (Text.upperChar c ++ rest)
      object := scope ++ "Extensions_" ++ Text.lastComponent fullName
      valueType := Text.dropTrailing '?' declaration
      defaultValue := if valueType.holding = .array then "[]" else valueType.defaultValue
      repeated := x.label = .repeated
      fieldType := ← t.extensionFieldType x false
      extendee := t.typeName x.extendee false
      number := x.number
      fullName }

/-- The accessors as the block prints them. -/
def accessor (x : ExtensionPlan) : AccessorText :=
  ⟨x.property, x.suffix, x.valueType, x.object, x.defaultValue, x.repeated⟩

/-- The extension object as the block prints it. -/
def objectText (x : ExtensionPlan) : Except Fault ObjectText := do
  return ⟨x.object, x.fieldType, ← x.extendee.shown, toString x.number, x.fullName⟩

end ExtensionPlan

namespace ExtensionSet

/-- The accessors of the extensions of one message, by its Swift name. -/
abbrev Group := Json × List AccessorText

/-- The groups with an accessor put into the one of its extended message. -/
def intoGroup (extendee : Json) (x : AccessorText) : List Group → List Group
  | [] => [(extendee, [x])]
  | (name, accessors) :: rest =>
    if name.same extendee then (name, accessors ++ [x]) :: rest
    else (name, accessors) :: intoGroup extendee x rest

/-- The accessors by extended message, in the order in which the messages first occur. -/
def groups (plans : List ExtensionPlan) : Except Fault (List AccessorGroup) :=
  let grouped := plans.foldl (fun gs x => intoGroup x.extendee x.accessor gs) []
  grouped.mapM fun (name, accessors) => do return ⟨← name.shown, accessors⟩

/-- The name of the table of a file's extensions. Characters of the file name that an identifier
cannot have become underscores, and an underscore stands before a digit at the start. -/
def registryName (t : NameTable) : String :=
  let base := (Text.points (FileName.split t.file.name).base.toList).map fun
    | .char c => if Swift.isBareChar c then c else '_'
    | .half _ => '_'
  let name := t.typePrefix.display ++ Swift.upperCamel (String.ofList base) ++ "_Extensions"
  if name.toList.head?.any Text.isDigit then "_" ++ name else name

variable (set : ExtensionSet) (t : NameTable) (s : Surroundings)

/-- The plans of the extensions, in order. -/
def plans : Except Fault (List ExtensionPlan) := set.entries.mapM (ExtensionPlan.make t)

/-- Prints the accessors after a blank line. -/
def properties : Emission :=
  .onValue (set.plans t) fun plans =>
    Emission.all [.lines [],
      .onValue (groups plans) fun groups =>
        .lines [Text.dropTrailing '\n' (AccessorBlock.text ⟨s.access, groups⟩)]]

/-- Prints a blank line and the table of extensions. -/
def registry : Emission :=
  Emission.all [.lines [],
    .onValue (set.plans t) fun plans =>
      .lines [Text.dropTrailing '\n' (RegistryBlock.text
        ⟨s.access, s.runtimePrefix, registryName t, plans.map (·.object)⟩)]]

/-- Prints a blank line and the extension objects. -/
def objects : Emission :=
  Emission.all [.lines [],
    .onValue (do (← set.plans t).mapM (·.objectText)) fun objects =>
      .lines [Text.dropTrailing '\n' (ObjectBlock.text ⟨s.access, s.runtimePrefix, objects⟩)]]

end ExtensionSet

end SchemaToSwift
