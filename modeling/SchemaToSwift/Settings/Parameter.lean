import SchemaToSwift.Settings.Error
import SchemaToSwift.Text.Blank
import SchemaToSwift.Text.Case

/-!
# Parameter strings

A parameter string sets settings on one line, as `FileNaming=DropPath,Visibility=Public`. It stands
for the same keys and values as a configuration; names are taken in any case of letters, and blanks
around names and values do not count. Two flags are short for a form of import.
-/

namespace SchemaToSwift.Parameter

/-- The settings by the names of the parameters that set them, in lower case. -/
def keys : List (String × String) := [
  ("filenaming", "output_naming"), ("visibility", "visibility"),
  ("importdirective", "import_directive"), ("generationmode", "generation_mode"),
  ("protopathmodulemappings", "module_mappings_file"),
  ("shortentypenamingfiles", "shorten_type_naming_files"),
  ("runtimemodulename", "runtime_module_name")]

/-- The forms of import by the flags that are short for them, in lower case. -/
def flags : List (String × ImportForm) := [
  ("implementationonlyimports", .implementationOnly), ("useaccesslevelonimports", .accessLevel)]

/-- The nonempty texts between semicolons. -/
def patterns (s : String) : List Json :=
  ((Text.parts ';' s).filter (· != "")).map Json.str

/-- The truth value of a flag. -/
def flag (name value : String) : Except SettingsError Bool :=
  let word := Text.lower (Text.trim value)
  if word ∈ ["true", "yes", "1"] then .ok true
  else if word ∈ ["false", "no", "0"] then .ok false
  else .error (.badFlag name value)

/-- The name and the value of a chunk, without blanks around them. -/
def nameAndValue (chunk : List Char) : String × String :=
  let (name, value) := Text.cut '=' chunk
  (String.ofList (Text.trimChars name), String.ofList (Text.trimChars (value.getD [])))

/-- The setting that a chunk sets, if it sets one: a blank chunk and a flag that is off do not. -/
def chunk (cs : List Char) : Except SettingsError (Option (String × Json)) :=
  if (Text.trimChars cs).isEmpty then .ok none
  else
    let (name, value) := nameAndValue cs
    let lowered := Text.lower name
    match flags.lookup lowered with
    | some form => do
      let on ← flag name value
      return if on then some (Choice.importForm.key, .str (Choice.importForm.nameOf form)) else none
    | none =>
      match keys.lookup lowered with
      | some "shorten_type_naming_files" =>
        .ok (some ("shorten_type_naming_files", .arr (patterns value)))
      | some key => .ok (some (key, .str value))
      | none => .error (.unknownParameter name)

/-- The settings that a parameter string sets. A setting that is set twice keeps its place and gets
the later value. -/
def parse (s : String) : Except SettingsError (List (String × Json)) := do
  let chunks ← (Text.splitAt ',' s.toList).mapM chunk
  return Json.ofMembers (chunks.filterMap id)

end SchemaToSwift.Parameter
