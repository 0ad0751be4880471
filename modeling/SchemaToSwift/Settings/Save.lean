import SchemaToSwift.Json.Order
import SchemaToSwift.Json.Writer
import SchemaToSwift.Settings.ModuleFile

/-!
# Saved settings

Settings are saved as the JSON object that a configuration file holds, with its members by name, so
that equal settings give the same text. A table of modules is ordered by its files themselves, which
need not be strings; if they cannot be put in order, the text breaks off where the table begins.
-/

namespace SchemaToSwift.Settings

/-- The name that stands for a file in a saved table of modules. -/
def memberName : Json → String
  | .str s => s
  | v => Json.write .compact v

/-- The members of a table of modules. -/
def moduleMembers (m : ModuleMap) : List (String × Json) :=
  m.map fun (file, module) => (memberName file, module)

/-- The table with its files in order. -/
def orderedModules (m : ModuleMap) : Except Fault ModuleMap := Json.sortBy (·.1) m

/-- The key of the table of modules. -/
def modulesKey : String := "proto_to_module_mappings"

/-- The members before the table of modules. -/
def firstMembers (s : Settings) : List (String × Json) := [
  (Choice.profile.key, .str (Choice.profile.nameOf s.profile)),
  (Choice.importForm.key, .str (Choice.importForm.nameOf s.importForm)),
  (Choice.naming.key, .str (Choice.naming.nameOf s.naming))]

/-- The members after the table of modules. -/
def lastMembers (s : Settings) : List (String × Json) := [
  ("runtime_module_name", .str s.runtimeModule),
  ("shorten_type_naming_files", .arr (s.shortened.map Json.byName)),
  (Choice.access.key, .str (Choice.access.nameOf s.access))]

/-- The configuration that gives the settings, with modules in the given order. -/
def document (s : Settings) (modules : ModuleMap) : Json :=
  let members := (moduleMembers modules).map fun (name, module) => (name, module.byName)
  .obj (s.firstMembers ++ [(modulesKey, .obj members)] ++ s.lastMembers)

/-- The text of a configuration up to where the table of modules begins. -/
def beginning (s : Settings) : String :=
  let members := s.firstMembers.map fun (key, value) =>
    "  " ++ Json.Writer.string key ++ ": " ++ value.write .lines ++ ",\n"
  "\x7b\n" ++ String.join members ++ "  " ++ Json.Writer.string modulesKey ++ ": \x7b\n    "

/-- The text that settings are saved as, and whether it is complete. -/
def text (s : Settings) : String × Except Fault Unit :=
  match orderedModules s.modules with
  | .ok modules => ((s.document modules).write .lines, .ok ())
  | .error fault => (s.beginning, .error fault)

/-- The tree with the settings saved to a file. The path is taken as it stands. -/
def save (tree : FileTree) (s : Settings) (path : String) :
    FileTree × Except (Failure SettingsError) Unit :=
  match tree.fileOfText path with
  | .error .badValue => (tree, .error (.escaped .badValue))
  | .error .unencodable => (tree, .error (.escaped .unencodable))
  | .error fault => (tree, .error (.reported (.unsaved path fault)))
  | .ok loc =>
    let (text, result) := s.text
    ((tree.write loc text).1, Failure.escape result)

end SchemaToSwift.Settings
