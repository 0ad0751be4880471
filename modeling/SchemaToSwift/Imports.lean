import SchemaToSwift.Json.Order
import SchemaToSwift.Names.Table
import SchemaToSwift.Settings.Basic

/-!
# Imports

A generated file imports the modules that its dependencies belong to, the dependencies' public ones
included. Modules that are the file's own or the runtime library are left out. A module that is
reached through a public import is made visible further if the settings ask for it.
-/

namespace SchemaToSwift

/-- A module to import, and whether it is made visible further. -/
structure ImportedModule where
  module : Json
  exported : Bool
deriving Repr

namespace ImportedModule

/-- The modules with one more, which is made visible if one of its occurrences is. -/
def note (module : Json) (exported : Bool) : List ImportedModule → List ImportedModule
  | [] => [⟨module, exported⟩]
  | m :: rest =>
    if m.module.same module then ⟨m.module, m.exported || exported⟩ :: rest
    else m :: note module exported rest

/-- The modules in order. Modules that cannot be compared cannot be put in order. -/
def sort (ms : List ImportedModule) : Except Fault (List ImportedModule) :=
  Json.sortBy (·.module) ms

/-- The import statement. -/
def line (form : ImportForm) (m : ImportedModule) : String :=
  (if m.exported then
      match form with
      | .accessLevel => "public import"
      | _ => "@_exported import"
    else form.keywords) ++ " " ++ m.module.display

end ImportedModule

namespace NameTable

variable (t : NameTable)

/-- The module of a schema file, if it has one that can be imported. -/
def moduleToImport? (file : Json) : Except Fault (Option Json) := do
  match ModuleMap.moduleOf? t.modules (← file.asKey) with
  | none | some .null => return none
  | some module =>
    let module ← module.asKey
    let own := ModuleMap.moduleOf? t.modules (.str t.file.name)
    if own.any (·.same module) || module.same (.str t.runtimeModule) then return none
    else return some module

/-- The module of the file itself can stand in a table. -/
def checkOwnModule : Except Fault Unit :=
  match ModuleMap.moduleOf? t.modules (.str t.file.name) with
  | some module => discard module.asKey
  | none => .ok ()

mutual

/-- The modules with those of a dependency and of what it makes visible. -/
def collectOne (reexport throughPublic : Bool) (found : List ImportedModule) :
    Dependency → Except Fault (List ImportedModule)
  | ⟨name, isPublic, reexports⟩ => do
    let exported := reexport && (isPublic || throughPublic)
    let found ← match ← t.moduleToImport? name with
      | some module => pure (ImportedModule.note module exported found)
      | none => pure found
    collect reexport exported found reexports

/-- The modules with those of the dependencies of a list. -/
def collect (reexport throughPublic : Bool) (found : List ImportedModule) :
    List Dependency → Except Fault (List ImportedModule)
  | [] => .ok found
  | d :: ds => do
    let found ← collectOne reexport throughPublic found d
    collect reexport throughPublic found ds

end

/-- The import statements of the file, by the names of the modules. -/
def importLines (form : ImportForm) (reexport : Bool) : Except Fault (List String) := do
  t.checkOwnModule
  let found ← t.collect reexport false [] t.file.dependencies
  return (← ImportedModule.sort found).map (·.line form)

end NameTable

end SchemaToSwift
