import SchemaToSwift.Block.File
import SchemaToSwift.Emit.Message
import SchemaToSwift.Imports
import SchemaToSwift.Schema.Comment

/-!
# Emission of a file

A `FilePlan` holds the names of a schema file and the settings it is generated with. It prints the
banner, the comments carried over from the schema, the imports, the check of the runtime version,
and then the declarations and their runtime support in a fixed order. The lite profile keeps only
the declarations.
-/

namespace SchemaToSwift

/-- A file to generate. -/
structure FilePlan where
  settings : Settings
  names : NameTable
  /-- Whether the lite profile uses shortened type names. -/
  shorten : Bool

namespace FilePlan

/-- The version of the generated code that the runtime library is checked against. -/
def compatibilityVersion : Nat := 2

/-- Where the generated types are documented. -/
def documentation : String := "https://github.com/apple/swift-protobuf/"

/-- The comment in place of declarations. -/
def noDeclarations : String := "// This file contained no messages, enums, or extensions."

/-- Whether the name contains one of the texts. The texts after the first that it contains are not
looked at. -/
def containsAny (name : String) : List Json → Except Fault Bool
  | [] => .ok false
  | pattern :: rest => do
    let text ← pattern.asText .wrongType
    if Text.contains name text then return true else containsAny name rest

/-- The plan for a file. -/
def make (settings : Settings) (file : Schema) : Except Fault FilePlan := do
  let names ← NameTable.ofSchema file settings.modules settings.runtimeModule
  let shorten ← containsAny file.name settings.shortened
  return { settings, names, shorten }

variable (plan : FilePlan)

/-- The schema file. -/
def file : Schema := plan.names.file

/-- The name of the output file. -/
def outputName : String :=
  plan.settings.naming.outputName plan.file.name FileNaming.swiftEnding

/-- What all blocks of the file have in common. -/
def surroundings : Surroundings := .of plan.settings plan.names

/-- Refuses a prefix that is no bare identifier. -/
def checkPrefix : Except (Failure GenerationError) Unit :=
  let given := plan.file.swiftPrefix
  if given.truthy then do
    let text ← Failure.escape (given.asText .wrongType)
    if Swift.isBare text then return () else throw (.reported (.badPrefix plan.file.name text))
  else .ok ()

/-- Prints the banner and a blank line. -/
def banner : Emission :=
  let block : BannerBlock :=
    ⟨plan.file.name, Choice.profile.nameOf plan.settings.profile, documentation⟩
  .lines [Text.dropTrailing '\n' block.text ++ "\n"]

/-- The numbers of the structural paths at which a comment at the top of a schema file stands: the
edition and, if there is none, the version of the schema language. -/
def topPaths : List Int := [14, 12]

/-- The comments at the top of the schema file. -/
def topComments : Option Comments :=
  topPaths.findSome? fun n => plan.file.commentsAt [.int n]

/-- Prints the comments at the top of the schema file, with a blank line after them. -/
def topComment : Emission :=
  match plan.topComments with
  | none => .nothing
  | some c => .onValue (c.sourceText "///" (some "//")) fun text =>
    if text = "" then .nothing
    else if "\n\n".toList.isSuffixOf text.toList then .text text
    else .lines [text]

/-- The keywords of imports. -/
def importKeywords : String := plan.settings.importForm.keywords

/-- The lines about Foundation and the runtime library. -/
def fixedImports : List String :=
  (if plan.file.needsFoundation then [plan.importKeywords ++ " Foundation"] else []) ++
  if plan.file.isBundled then
    ["// 'import " ++ plan.names.runtimeModule ++ "' suppressed, this proto file is meant to be " ++
      "bundled in the runtime."]
  else if plan.file.definesTypes then [plan.importKeywords ++ " " ++ plan.names.runtimeModule]
  else []

/-- The imports of the modules of dependencies. -/
def moduleImports : Except Fault (List String) :=
  plan.names.importLines plan.settings.importForm (plan.settings.access != .internalAccess)

/-- Prints texts as lines, if there are any. -/
def linesIfAny (texts : List String) : Emission :=
  if texts.isEmpty then .nothing else .lines texts

/-- Prints the check of the runtime version. -/
def versionCheck : Emission :=
  let block : VersionBlock :=
    ⟨plan.names.runtimePrefix, plan.names.runtimeModule, toString compatibilityVersion⟩
  .lines [Text.dropTrailing '\n' block.text]

/-- The declarations of a file, planned. -/
structure Declarations where
  extensions : ExtensionSet
  enums : List EnumPlan
  messages : List MessagePlan

/-- The plans of the file's declarations. -/
def declarations (shorten : Bool) : Except Fault Declarations := do
  let (set, added) := ExtensionSet.empty.add plan.file.extensions
  added
  let enums ← plan.file.enums.mapM (EnumPlan.make plan.names shorten)
  let (set, messages) := MessagePlan.makeAll plan.names shorten plan.file.messages set
  return { extensions := set, enums, messages := ← messages }

/-- Prints the declarations of the enums and then of the messages. -/
def printDeclarations (d : Declarations) : Emission :=
  .andThen (.all (d.enums.map (·.declaration plan.surroundings)))
    (MessagePlan.declarations plan.surroundings d.messages)

/-- Prints the code for the extensions of the file. -/
def printExtensions (set : ExtensionSet) : Emission :=
  if set.isEmpty then .nothing
  else .all [
    .lines ["", "// MARK: - Extension support defined in " ++
      (FileName.split plan.file.name).withoutFolder ++ "."],
    set.properties plan.names plan.surroundings,
    set.registry plan.names plan.surroundings,
    set.objects plan.names plan.surroundings]

/-- Whether the file has a package. -/
def hasPackage : Bool := plan.file.package.truthy

/-- Prints the runtime support of all declarations. The package is bound if there are messages,
whose proto names refer to it. -/
def printRuntimeSupport (d : Declarations) : Emission :=
  .all [
    .lines ["", "// MARK: - Code below here is support for the " ++ plan.names.runtimeModule ++
      " runtime."],
    if plan.hasPackage && !d.messages.isEmpty then
      .lines ["", "fileprivate let _protobuf_package = \"" ++ plan.file.package.display ++ "\""]
    else .nothing,
    .all (d.enums.map (·.runtimeSupport plan.surroundings)),
    MessagePlan.runtimeSupports plan.surroundings plan.hasPackage d.messages]

/-- Prints what follows the comments in the lite profile. -/
def liteBody : Emission :=
  if !plan.file.definesTypes then .all [.lines [], .lines [noDeclarations]]
  else .all [
    .lines ["import Foundation"],
    .onValue (plan.declarations plan.shorten) plan.printDeclarations]

/-- Prints what follows the imports in the full profile. -/
def fullBody (hasImports : Bool) : Emission :=
  if !plan.file.definesTypes then
    .all [if hasImports then .lines [] else .nothing, .lines [noDeclarations]]
  else .all [
    .lines [],
    plan.versionCheck,
    .onValue (plan.declarations false) fun d => .all [
      plan.printDeclarations d,
      plan.printExtensions d.extensions,
      plan.printRuntimeSupport d]]

/-- Prints the imports of modules, after a blank line if other imports come before them. -/
def printModuleImports (modules : List String) : Emission :=
  if modules.isEmpty then .nothing
  else .all [if plan.fixedImports.isEmpty then .nothing else .lines [], .lines modules]

/-- Prints what follows the comments in the full profile. -/
def importsAndBody : Emission :=
  .andThen (linesIfAny plan.fixedImports) <|
    .onValue plan.moduleImports fun modules =>
      .andThen (plan.printModuleImports modules)
        (plan.fullBody (!plan.fixedImports.isEmpty || !modules.isEmpty))

/-- Prints the file, whose prefix has been checked. -/
def contents : Emission :=
  .all [
    plan.banner,
    plan.topComment,
    if plan.settings.isLite then plan.liteBody else plan.importsAndBody]

/-- Checks the prefix and prints the file. -/
def output : Emission := .on plan.checkPrefix fun _ => plan.contents

end FilePlan

end SchemaToSwift
