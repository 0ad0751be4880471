import SchemaToSwift.Settings.Basic

/-!
# Errors of settings

Why settings cannot be read or saved, and the sentence that says so. The sentence of an error with
a cause ends where the text of the cause follows.
-/

namespace SchemaToSwift

/-- A file that settings are read from. -/
inductive SettingsFile
  | configuration | moduleMap
deriving Repr, DecidableEq

/-- The words for such a file. -/
def SettingsFile.text : SettingsFile → String
  | .configuration => "Configuration file"
  | .moduleMap => "Module mappings file"

/-- Why settings cannot be read or saved. -/
inductive SettingsError
  | badChoice (key : String) (value : Json) (names : List String)
  | badFlag (name value : String)
  | unknownParameter (name : String)
  | unknownKey (key : String)
  | modulesNotObject
  | badRuntimeModule (value : Json)
  | noSuchFile (file : SettingsFile) (path : String)
  | badJson (path : String)
  | unreadable (path : String) (cause : Fault)
  | notObject (file : SettingsFile) (path : String)
  | mappingNotList (path : String)
  | unnamedModule (path : String)
  | twoModules (file first second : Json) (path : String)
  | unsaved (path : String) (cause : Fault)
deriving Repr

/-- The sentence for an error. -/
def SettingsError.message : SettingsError → String
  | .badChoice key value names =>
    "Invalid value for " ++ key ++ ": " ++ value.quoted ++ " (expected one of: " ++
      ", ".intercalate names ++ ")"
  | .badFlag name value => "Invalid boolean for " ++ name ++ ": " ++ Text.quoted value
  | .unknownParameter name => "Unknown generator parameter: " ++ name
  | .unknownKey key => "Unknown configuration key: " ++ key
  | .modulesNotObject => "proto_to_module_mappings must be an object"
  | .badRuntimeModule value => "Invalid runtime_module_name: " ++ value.quoted
  | .noSuchFile file path => file.text ++ " not found: " ++ path
  | .badJson path => "Invalid JSON in " ++ path ++ ": "
  | .unreadable path _ => "Failed to read " ++ path ++ ": "
  | .notObject file path => file.text ++ " must contain a JSON object: " ++ path
  | .mappingNotList path => "'mapping' must be a list in " ++ path
  | .unnamedModule path => "Mapping entry without module_name in " ++ path
  | .twoModules file first second path =>
    "Duplicate proto file path '" ++ file.display ++ "' mapped to '" ++ first.display ++
      "' and '" ++ second.display ++ "' in " ++ path
  | .unsaved path _ => "Failed to save configuration to " ++ path ++ ": "

end SchemaToSwift
