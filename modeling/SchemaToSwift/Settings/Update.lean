import SchemaToSwift.Journal
import SchemaToSwift.Settings.ModuleFile
import SchemaToSwift.Settings.Parameter
import SchemaToSwift.Text.Identifier

/-!
# Updates of settings

Each key and value of a configuration is read on its own as an update of one setting, and the
updates are applied in order. `Settings.update` fails with the first pair that cannot be read;
`updateIn_eq` says that it applies the list of what the pairs read.
-/

namespace SchemaToSwift

namespace Choice

variable {α : Type} [DecidableEq α]

/-- The choice that a text names, in lower case. -/
def ofText? (c : Choice α) (text : String) : Option α :=
  match c.names.find? fun entry => Text.lower entry.2 == text with
  | some (a, _) => some a
  | none => c.spellings.lookup text

/-- The choice that a value names. -/
def read (c : Choice α) (value : Json) : Except (Failure SettingsError) α :=
  match c.ofText? (Text.lower (Text.trim value.display)) with
  | some a => .ok a
  | none => .error (.reported (.badChoice c.key value (c.names.map (·.2))))

end Choice

namespace Settings

/-- A change of one setting. -/
inductive Update
  | naming (value : FileNaming)
  | importForm (value : ImportForm)
  | access (value : Access)
  | profile (value : Profile)
  | modules (value : ModuleMap)
  /-- The modules were read from a file. -/
  | moduleFile (path : String) (value : ModuleMap)
  /-- No file of modules was named. -/
  | noModuleFile
  | shortened (value : List Json)
  | runtimeModule (value : String)
deriving Repr

/-- The settings after a change. -/
def apply (s : Settings) : Update → Settings
  | .naming v => { s with naming := v }
  | .importForm v => { s with importForm := v }
  | .access v => { s with access := v }
  | .profile v => { s with profile := v }
  | .modules v | .moduleFile _ v => { s with modules := v }
  | .noModuleFile => s
  | .shortened v => { s with shortened := v }
  | .runtimeModule v => { s with runtimeModule := v }

/-- The change that a key and a value of a configuration ask for. -/
def readPair (tree : FileTree) (key : String) (value : Json) :
    Except (Failure SettingsError) Update :=
  match key with
  | "output_naming" => .naming <$> Choice.naming.read value
  | "import_directive" => .importForm <$> Choice.importForm.read value
  | "visibility" => .access <$> Choice.access.read value
  | "generation_mode" => .profile <$> Choice.profile.read value
  | "proto_to_module_mappings" =>
    match value with
    | .obj members => .ok (.modules (ModuleMap.ofMembers members))
    | _ => .error (.reported .modulesNotObject)
  | "module_mappings_file" =>
    if !value.truthy then .ok .noModuleFile
    else match value with
      | .str path => .moduleFile path <$> ModuleMap.load tree path
      | _ => .error (.escaped .wrongType)
  | "shorten_type_naming_files" =>
    match value with
    | .str s => .ok (.shortened (Parameter.patterns s))
    | v => .shortened <$> Failure.escape v.elements
  | "runtime_module_name" =>
    if value.truthy && Text.isIdentifier value.display then .ok (.runtimeModule value.display)
    else .error (.reported (.badRuntimeModule value))
  | _ => .error (.reported (.unknownKey key))

/-- The event that a change gives. -/
def Update.event? : Update → Option Event
  | .moduleFile path m => some (.modulesLoaded m.length path)
  | _ => none

/-- The session after reading the pairs of a configuration in order, and the settings after the
changes that they ask for. -/
def updateIn (s : Session) (base : Settings) :
    List (String × Json) → Session × Except (Failure SettingsError) Settings
  | [] => (s, .ok base)
  | (key, value) :: rest =>
    match readPair s.tree key value with
    | .error e => (s, .error e)
    | .ok u => updateIn (s.tellAll u.event?.toList) (base.apply u) rest

/-- The settings after the changes that the pairs of a configuration ask for. -/
def update (tree : FileTree) (pairs : List (String × Json)) (base : Settings) :
    Except (Failure SettingsError) Settings :=
  (updateIn (.start tree) base pairs).2

/-- Where there is no log, an update leaves the tree alone. -/
theorem tellAll_event? {s : Session} (h : s.logFile = none) (u : Update) :
    (s.tellAll u.event?.toList).tree = s.tree ∧ (s.tellAll u.event?.toList).logFile = none := by
  cases u.event? <;> simp [Session.tellAll, Session.tree_tell h, h]

/-- Without a log file the pairs are all read from one tree. -/
theorem updateIn_eq {s : Session} (h : s.logFile = none) (base : Settings)
    (pairs : List (String × Json)) :
    (updateIn s base pairs).2 =
      (pairs.mapM fun p => readPair s.tree p.1 p.2).map (·.foldl apply base) := by
  induction pairs generalizing s base with
  | nil => rfl
  | cons p rest ih =>
    obtain ⟨key, value⟩ := p
    simp only [updateIn, List.mapM_cons]
    cases readPair s.tree key value with
    | error e => rfl
    | ok u =>
      obtain ⟨tree, logFile⟩ := tellAll_event? h u
      simp only [ih logFile, tree]
      cases rest.mapM fun p => readPair s.tree p.1 p.2 <;> rfl

end Settings

end SchemaToSwift
