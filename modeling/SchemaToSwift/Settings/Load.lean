import SchemaToSwift.Settings.Update

/-!
# Settings from all sources

Settings come from a configuration file, a parameter string and explicit overrides, and later
sources win. The sources are read one after the other, and loading stops at the first thing that
cannot be read.
-/

namespace SchemaToSwift.Settings

/-- Where settings come from. An empty file name or parameter string counts as none. -/
structure Sources where
  configFile : Option String
  parameter : Option String
  overrides : List (String × Json)
deriving Repr

/-- The session after applying a configuration file, and the settings after it. -/
def applyFile (s : Session) (base : Settings) :
    Option String → Session × Except (Failure SettingsError) Settings
  | none | some "" => (s, .ok base)
  | some path =>
    match SettingsFile.configuration.readObject s.tree path with
    | .error e => (s, .error e)
    | .ok members =>
      match updateIn s base members with
      | (s, .error e) => (s, .error e)
      | (s, .ok settings) => (s.tell (.configApplied path), .ok settings)

/-- The session after applying a parameter string, and the settings after it. -/
def applyParameter (s : Session) (base : Settings) :
    Option String → Session × Except (Failure SettingsError) Settings
  | none | some "" => (s, .ok base)
  | some parameter =>
    match Parameter.parse parameter with
    | .error e => (s, .error (.reported e))
    | .ok pairs => updateIn s base pairs

/-- The session after loading settings from the sources, and the settings that they give. -/
def loadIn (s : Session) (sources : Sources) : Session × Except (Failure SettingsError) Settings :=
  match applyFile s default sources.configFile with
  | (s, .error e) => (s, .error e)
  | (s, .ok settings) =>
    match applyParameter s settings sources.parameter with
    | (s, .error e) => (s, .error e)
    | (s, .ok settings) => updateIn s settings sources.overrides

/-- The settings that the sources give. -/
def load (tree : FileTree) (sources : Sources) : Except (Failure SettingsError) Settings :=
  (loadIn (.start tree) sources).2

end SchemaToSwift.Settings
