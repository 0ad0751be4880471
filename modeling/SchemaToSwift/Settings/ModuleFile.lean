import SchemaToSwift.FileTree
import SchemaToSwift.Json.Parser
import SchemaToSwift.Settings.Error

/-!
# Files that settings are read from

`SettingsFile.readObject` reads a JSON object from a file, and `ModuleMap.load` a table of modules:
a list of modules, each with the schema files that belong to it. A file may be listed twice under
one module, but not under two.
-/

namespace SchemaToSwift

/-- The members of the object in a file. -/
def SettingsFile.readObject (kind : SettingsFile) (tree : FileTree) (path : String) :
    Except (Failure SettingsError) (List (String × Json)) := do
  let p := FilePath.ofText path
  let found ← Failure.escape (tree.has p)
  if !found then throw (.reported (.noSuchFile kind p.text))
  match tree.read p with
  | .error .badEncoding => throw (.escaped .badEncoding)
  | .error fault => throw (.reported (.unreadable p.text fault))
  | .ok text =>
    match Json.parse text with
    | .error e => throw (e.failure (.badJson p.text))
    | .ok (.obj members) => return members
    | .ok _ => throw (.reported (.notObject kind p.text))

namespace ModuleMap

/-- The table with one schema file put under a module. -/
def claim (path : String) (module : Json) (m : ModuleMap) (file : Json) :
    Except (Failure SettingsError) ModuleMap := do
  let file ← Failure.escape file.asKey
  match m.moduleOf? file with
  | some existing =>
    if existing.equal module then return m.put file module
    else throw (.reported (.twoModules file existing module path))
  | none => return m.put file module

/-- The schema files that an entry lists: one name, or a sequence of names. -/
def filesOf (members : List (String × Json)) : Except Fault (List Json) :=
  match (members.lookup "proto_file_path").getD (.arr []) with
  | .str s => .ok [.str s]
  | v => v.elements

/-- The table with the files of one entry put under its module. -/
def addEntry (path : String) (m : ModuleMap) (entry : Json) :
    Except (Failure SettingsError) ModuleMap := do
  match entry with
  | .obj members =>
    let module := (members.lookup "module_name").getD .null
    if !module.truthy then throw (.reported (.unnamedModule path))
    (← Failure.escape (filesOf members)).foldlM (claim path module) m
  | _ => throw (.reported (.unnamedModule path))

/-- The table that a list of entries makes up. -/
def ofEntries (path : String) (entries : List Json) : Except (Failure SettingsError) ModuleMap :=
  entries.foldlM (addEntry path) []

/-- The table in a file. -/
def load (tree : FileTree) (path : String) : Except (Failure SettingsError) ModuleMap := do
  let members ← SettingsFile.moduleMap.readObject tree path
  match (members.lookup "mapping").getD (.arr []) with
  | .arr entries => ofEntries path entries
  | _ => throw (.reported (.mappingNotList path))

end ModuleMap

end SchemaToSwift
