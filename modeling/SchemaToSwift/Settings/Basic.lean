import SchemaToSwift.FileName
import SchemaToSwift.Json.Display

/-!
# Settings

The settings that all files of one run share: how output files are named, how imports are written,
how visible the generated declarations are, whether the full or the lite profile is generated, which
module each schema file belongs to, which files get shortened type names, and the runtime library.
-/

namespace SchemaToSwift

/-- The form of an import statement. -/
inductive ImportForm
  | plain | implementationOnly | accessLevel
deriving Repr, DecidableEq

/-- The words of an import statement before the module's name. -/
def ImportForm.keywords : ImportForm → String
  | .plain => "import"
  | .implementationOnly => "@_implementationOnly import"
  | .accessLevel => "internal import"

/-- The visibility of generated declarations. -/
inductive Access
  | publicAccess | internalAccess
deriving Repr, DecidableEq

/-- The modifier of generated declarations. -/
def Access.modifier : Access → String
  | .publicAccess => "public "
  | .internalAccess => ""

/-- How much is generated. -/
inductive Profile
  | full | lite
deriving Repr, DecidableEq

/-- A table of modules by the schema files that belong to them. -/
abbrev ModuleMap := List (Json × Json)

namespace ModuleMap

/-- The module of a schema file. -/
def moduleOf? (m : ModuleMap) (file : Json) : Option Json :=
  (List.find? (fun entry => entry.1.same file) m).map (·.2)

/-- The table with the module of one file set; a file that is there already keeps its place. -/
def put (file module : Json) : ModuleMap → ModuleMap
  | [] => [(file, module)]
  | (f, m) :: rest => if f.same file then (f, module) :: rest else (f, m) :: put file module rest

/-- The table of the members of an object. -/
def ofMembers (members : List (String × Json)) : ModuleMap := members.map fun (f, m) => (.str f, m)

/-- Whether two tables give the same module to the same files. -/
def same (a b : ModuleMap) : Bool :=
  a.length == b.length && a.all fun (f, m) => (moduleOf? b f).any (m.same ·)

end ModuleMap

/-- The settings of a run. -/
structure Settings where
  naming : FileNaming
  importForm : ImportForm
  access : Access
  profile : Profile
  modules : ModuleMap
  /-- A file whose name contains one of these texts gets shortened type names in the lite
  profile. -/
  shortened : List Json
  runtimeModule : String
deriving Repr

namespace Settings

/-- The settings where nothing is set. -/
def default : Settings where
  naming := .fullPath
  importForm := .plain
  access := .internalAccess
  profile := .full
  modules := []
  shortened := []
  runtimeModule := "SwiftProtobuf"

/-- Whether only the lite profile is generated. -/
def isLite (s : Settings) : Bool := s.profile == .lite

/-- Whether two settings are the same, modules and shortened files by value. -/
def same (a b : Settings) : Bool :=
  a.naming == b.naming && a.importForm == b.importForm && a.access == b.access &&
    a.profile == b.profile && a.modules.same b.modules && Json.sameItems a.shortened b.shortened &&
    a.runtimeModule == b.runtimeModule

end Settings

/-- A setting that is one of several choices, which have names and other accepted spellings. -/
structure Choice (α : Type) where
  /-- The name of the setting. -/
  key : String
  /-- The choices with their names. -/
  names : List (α × String)
  /-- Other spellings, in lower case. -/
  spellings : List (String × α)

namespace Choice

/-- The setting of output file names. -/
def naming : Choice FileNaming where
  key := "output_naming"
  names := [(.fullPath, "FullPath"), (.pathToUnderscores, "PathToUnderscores"),
    (.dropPath, "DropPath")]
  spellings := [("full_path", .fullPath), ("path_to_underscores", .pathToUnderscores),
    ("drop_path", .dropPath)]

/-- The setting of import statements. -/
def importForm : Choice ImportForm where
  key := "import_directive"
  names := [(.plain, "plain"), (.implementationOnly, "implementationOnly"),
    (.accessLevel, "accessLevel")]
  spellings := [("implementation_only", .implementationOnly), ("access_level", .accessLevel)]

/-- The setting of visibility. -/
def access : Choice Access where
  key := "visibility"
  names := [(.publicAccess, "Public"), (.internalAccess, "Internal")]
  spellings := [("file_local", .internalAccess), ("filelocal", .internalAccess)]

/-- The setting of the profile. -/
def profile : Choice Profile where
  key := "generation_mode"
  names := [(.full, "full"), (.lite, "lite")]
  spellings := []

variable {α : Type} [DecidableEq α]

/-- The name of a choice. -/
def nameOf (c : Choice α) (a : α) : String := (c.names.lookup a).getD ""

end Choice

end SchemaToSwift
