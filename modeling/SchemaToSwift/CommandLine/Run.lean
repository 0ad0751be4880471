import SchemaToSwift.CommandLine.Arguments
import SchemaToSwift.Outcome.Events
import SchemaToSwift.Schema.Set
import SchemaToSwift.Settings.Save
import SchemaToSwift.Status.Table

/-!
# Running the command

A run reads arguments, settings and a descriptor set, generates code, and writes it to files or to
standard output. It is a function of the arguments and of the tree of files; its report says how it
ended, what it printed, the files after it, and what it told its log. At its end it shows status
lines or a table, and one that cannot be shown is a fault.
-/

namespace SchemaToSwift.CommandLine

/-- The version of the command. -/
def version : String := "0.1.0"

/-- Why a run cannot go on. -/
inductive CommandError
  | settings (error : SettingsError)
  | saving (error : SettingsError)
  | schemaSet (error : SchemaError)
  /-- An output file cannot be written, because of what stands at a path on the way to it. -/
  | writing (path stoppedAt : String) (cause : Fault)
deriving Repr

namespace CommandError

/-- The sentence for an error. -/
def message : CommandError → String
  | .settings e => "Configuration error: " ++ e.message
  | .saving e => e.message
  | .schemaSet e => e.message
  | .writing path .. => "Failed to write " ++ path ++ ": "

/-- How much of a text that is no numeral is shown. -/
def shownPoints : Nat := 200

/-- The words of the system for a fault of the file system, with its number. -/
def systemWords : Fault → String
  | .noFile => "[Errno 2] No such file or directory: "
  | .fileExists => "[Errno 17] File exists: "
  | .notFolder => "[Errno 20] Not a directory: "
  | .isFolder => "[Errno 21] Is a directory: "
  | .badName => "[Errno 36] File name too long: "
  | _ => ""

/-- The text of the cause of an error, as far as it quotes the input. -/
def causeText : CommandError → String
  | .settings (.unreadable path cause) | .saving (.unsaved path cause)
  | .schemaSet (.unreadable path cause) | .writing _ path cause =>
    systemWords cause ++ Text.quoted path
  | .schemaSet (.malformed _ (.badNumeral text)) =>
    "invalid literal for int() with base 10: " ++
      Text.ofPoints ((Text.points (Text.quotedChars text.toList)).take shownPoints)
  | _ => ""

/-- The status line for an error. -/
def statusLine (e : CommandError) : String :=
  "[red]✗ Error:[/red] " ++ e.message ++ e.causeText

end CommandError

/-- How a run ends. -/
inductive Ending
  | exit (code : Nat)
  /-- A fault escaped. -/
  | fault (fault : Fault)
deriving Repr, DecidableEq

/-- The ending of a run that shows something last. -/
def Ending.after (shown : Except Fault Unit) (code : Nat) : Ending :=
  match shown with
  | .ok () => .exit code
  | .error f => .fault f

/-- What a run leaves behind. -/
structure Report where
  ending : Ending
  stdout : String
  session : Session
  error? : Option CommandError
  outcomes : List Outcome

namespace Report

/-- The report of a run that ends in a session. -/
def finish (s : Session) (ending : Ending) (stdout : String) (outcomes : List Outcome) : Report :=
  ⟨ending, stdout, s, none, outcomes⟩

/-- The report of a run that an error ends. -/
def fail (s : Session) (e : CommandError) (outcomes : List Outcome) : Report :=
  ⟨.after (Status.presentLine e.statusLine) 1, "", s, some e, outcomes⟩

/-- The report of a run that a failure ends. -/
def failWith {ε : Type} (s : Session) (f : ε → CommandError) : Failure ε → Report
  | .reported e => fail s (f e) []
  | .escaped fault => finish s (.fault fault) "" []

end Report

/-- The tree with the log file opened, and its location. The path is taken by its components, not
through the tree. -/
def openLog (tree : FileTree) : Given FilePath → Except Fault (FileTree × Option Location)
  | .nothing => .ok (tree, none)
  | .blank => .error .wrongType
  | .value p => do
    let parts := FilePath.collapsed (if p.isAbsolute then p.parts else tree.here ++ p.parts)
    let loc ← tree.fileOf ⟨.root, parts⟩
    return (if (tree.entry? loc).isSome then tree else tree.put loc (.text ""), some loc)

/-- The session after writing an output file, or the path and the fault that stopped it. -/
def writeOutput (s : Session) (target : FilePath) (content : String) :
    Session × Except (FilePath × Fault) Unit :=
  match s.tree.makeFolders target.parent with
  | (tree, .error e) => ({ s with tree }, .error e)
  | (tree, .ok ()) =>
    match tree.fileOf target with
    | .error fault => ({ s with tree }, .error (target, fault))
    | .ok loc =>
      match tree.write loc content with
      | (tree, .error fault) => ({ s with tree }, .error (target, fault))
      | (tree, .ok ()) => ({ s with tree }.tell (.wrote target.text), .ok ())

/-- The session after writing the generated files below a folder, and the target, path and fault
that stopped it. -/
def writeOutputs (s : Session) (folder : FilePath) :
    List Outcome → Session × Except (FilePath × FilePath × Fault) Unit
  | [] => (s, .ok ())
  | .rejected .. :: rest => writeOutputs s folder rest
  | .generated _ output content :: rest =>
    let target := folder.join (.ofText output)
    match writeOutput s target content with
    | (s, .ok ()) => writeOutputs s folder rest
    | (s, .error e) => (s, .error (target, e))

/-- The text that generation gives: the contents of the generated files, one after the other. -/
def outputText (outcomes : List Outcome) : String :=
  String.join (outcomes.map fun
    | .generated _ _ content => content
    | .rejected .. => "")

/-- The exit code of a run that generated and wrote all it could. -/
def exitCode (outcomes : List Outcome) : Nat := if outcomes.all (·.isGenerated) then 0 else 1

/-- The status lines of outcomes whose contents are printed: those of the rejected ones. -/
def failureLines (outcomes : List Outcome) : List String :=
  outcomes.filterMap fun
    | .generated .. => none
    | .rejected _ reason => some ("[red]✗[/red] " ++ reason.message)

/-- The columns of the table of outcomes whose contents are written to files. -/
def summary (outcomes : List Outcome) : List Status.Column := [
  ⟨"Input", outcomes.map (·.file)⟩,
  ⟨"Output", outcomes.map fun
    | .generated _ output _ => output
    | .rejected .. => "[dim]-[/dim]"⟩,
  ⟨"Status", outcomes.map fun
    | .generated .. => "[green]✓[/green]"
    | .rejected _ reason => "[red]✗ " ++ reason.message ++ "[/red]"⟩]

/-- Ends a run with its outcomes. -/
def deliver (args : Arguments) (s : Session) (outcomes : List Outcome) : Report :=
  let code := exitCode outcomes
  if args.stdout then
    let shown := (failureLines outcomes).forM Status.presentLine
    .finish s (.after shown code) (outputText outcomes) outcomes
  else match args.outputDir with
    | .nothing | .blank => .finish s (.fault .wrongType) "" outcomes
    | .value folder =>
      match writeOutputs s (.ofText folder) outcomes with
      | (s, .ok ()) => .finish s (.after (Status.Table.present (summary outcomes)) code) "" outcomes
      | (s, .error (target, path, fault)) =>
        match fault with
        | .badValue | .unencodable => .finish s (.fault fault) "" outcomes
        | _ => .fail s (.writing target.text path.text fault) outcomes

/-- The session after saving the settings if the arguments ask for it. -/
def saveSettings (args : Arguments) (settings : Settings) (s : Session) :
    Session × Except (Failure SettingsError) Unit :=
  match args.saveConfig with
  | .nothing | .blank => (s, .ok ())
  | .value path =>
    match settings.save s.tree path.text with
    | (tree, .ok ()) => ({ s with tree }.tell (.settingsSaved path.text), .ok ())
    | (tree, .error e) => ({ s with tree }, .error e)

/-- Goes on from the descriptor set: generates code and delivers it. -/
def generate (args : Arguments) (settings : Settings) (set : SchemaSet) (s : Session) : Report :=
  let s := s.tellAll (Batch.events settings set.wanted set.files)
  match Batch.generate settings set.wanted set.files with
  | .error fault => .finish s (.fault fault) "" []
  | .ok outcomes => deliver args s outcomes

/-- Goes on from the settings: saves them and loads the descriptor set. -/
def loadSet (args : Arguments) (settings : Settings) (s : Session) : Report :=
  match saveSettings args settings s with
  | (s, .error e) => .failWith s .saving e
  | (s, .ok ()) =>
    match SchemaSet.loadIn s (args.descriptorSet.getD "") with
    | (s, .error e) => .failWith s .schemaSet e
    | (s, .ok set) => generate args settings set s

/-- Goes on from the arguments: loads the settings. -/
def runWith (args : Arguments) (s : Session) : Report :=
  match Settings.loadIn s args.sources with
  | (s, .error e) => .failWith s .settings e
  | (s, .ok settings) => loadSet args settings s

/-- The report of a run with the given arguments. -/
def run (tree : FileTree) (argv : List String) : Report :=
  let start := Session.start tree
  match Arguments.parse argv with
  | .error .usage => .finish start (.exit 2) "" []
  | .error .showHelp => .finish start (.exit 0) "" []
  | .error .showVersion => .finish start (.exit 0) (version ++ "\n") []
  | .ok args =>
    match openLog tree args.logFile with
    | .error fault => .finish start (.fault fault) "" []
    | .ok (tree, logFile) => runWith args { start with tree, logFile }

end SchemaToSwift.CommandLine
