import SchemaToSwift.FileTree
import SchemaToSwift.Settings.Basic

/-!
# Journal

What a run tells of its progress. An event has a level, the part of the program that it comes from
and a sentence. A `Session` is the tree that a run works on together with what it has told so far:
every event goes to the journal and, as a line, to the log file if there is one. The log file is a
file of the tree like any other, so a run that reads it finds its own lines there.
-/

namespace SchemaToSwift

/-- The importance of an event. -/
inductive Level
  | debug | info | warning | error
deriving Repr, DecidableEq

/-- The name of a level. -/
def Level.name : Level → String
  | .debug => "DEBUG"
  | .info => "INFO"
  | .warning => "WARNING"
  | .error => "ERROR"

/-- Something that happened in a run. -/
inductive Event
  | modulesLoaded (count : Nat) (path : String)
  | configApplied (path : String)
  | settingsSaved (path : String)
  | loadingSet (path : String)
  | setMissing (path : String)
  | setLoaded (count : Nat)
  | generating (file : String) (profile : Profile)
  | generationFailed (file reason : String)
  | collided (reason : String)
  | batchDone (count failed : Nat)
  | wrote (path : String)
deriving Repr, DecidableEq

namespace Event

/-- The level of an event. -/
def level : Event → Level
  | .settingsSaved _ | .setLoaded _ => .info
  | .generationFailed .. | .collided _ => .warning
  | .setMissing _ => .error
  | _ => .debug

/-- The logger of the part of the program that an event comes from. -/
def source : Event → String
  | .modulesLoaded .. | .configApplied _ => "swift_protogen.codegen.core.config"
  | .settingsSaved _ | .wrote _ => "swift_protogen.cli"
  | .loadingSet _ | .setMissing _ | .setLoaded _ => "swift_protogen.utils"
  | .generating .. => "swift_protogen.codegen.swift.file_generator"
  | .generationFailed .. => "swift_protogen.codegen.core.generator"
  | .collided _ | .batchDone .. => "swift_protogen.codegen"

/-- The sentence for an event. -/
def message : Event → String
  | .modulesLoaded count path => "Loaded " ++ toString count ++ " module mappings from " ++ path
  | .configApplied path => "Applied configuration file " ++ path
  | .settingsSaved path => "Saved generator options to " ++ path
  | .loadingSet path => "Loading descriptor set from " ++ path
  | .setMissing path => "File not found: " ++ path
  | .setLoaded count => "Loaded " ++ toString count ++ " file descriptor(s)"
  | .generating file profile =>
    "Generating " ++ file ++ " (" ++ Choice.profile.nameOf profile ++ " mode)"
  | .generationFailed file reason => "Generation failed for " ++ file ++ ": " ++ reason
  | .collided reason => reason
  | .batchDone count failed =>
    "Generated " ++ toString count ++ " file(s), " ++ toString failed ++ " failed"
  | .wrote path => "Wrote " ++ path

/-- The line of an event in a log file, after the time. -/
def line (e : Event) : String := e.level.name ++ " " ++ e.source ++ ": " ++ e.message

end Event

/-- A tree of files in use, and what has been told so far. -/
structure Session where
  tree : FileTree
  /-- The location of the log file, if there is one. -/
  logFile : Option Location
  /-- The events so far, in order. -/
  journal : List Event
deriving Repr

namespace Session

/-- The session on a tree, without a log file and before any event. -/
def start (tree : FileTree) : Session := ⟨tree, none, []⟩

/-- The tree with an event in the log file. A line that has no bytes is left out. -/
def logged (s : Session) (e : Event) : FileTree :=
  match s.logFile with
  | none => s.tree
  | some loc => if Text.hasHalf e.line then s.tree else s.tree.append loc (e.line ++ "\n")

/-- The session after an event. -/
def tell (s : Session) (e : Event) : Session :=
  { s with tree := s.logged e, journal := s.journal ++ [e] }

/-- The session after events. -/
def tellAll (s : Session) (events : List Event) : Session := events.foldl tell s

/-- Without a log file, telling leaves the tree alone. -/
theorem tree_tell {s : Session} (h : s.logFile = none) (e : Event) : (s.tell e).tree = s.tree := by
  simp [tell, logged, h]

/-- The log stays where it is. -/
@[simp] theorem logFile_tell (s : Session) (e : Event) : (s.tell e).logFile = s.logFile := rfl

/-- An event comes after those before it. -/
@[simp] theorem journal_tell (s : Session) (e : Event) :
    (s.tell e).journal = s.journal ++ [e] := rfl

end Session

end SchemaToSwift
