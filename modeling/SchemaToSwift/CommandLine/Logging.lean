/-!
# Logging

The names of loggers and what configuring them leaves: a handler for the console, and one for a file
if there is one, each configuration replacing the one before it.
-/

namespace SchemaToSwift.Logging

/-- The logger above all others. -/
def root : String := "swift_protogen"

/-- The name of the logger for a part of the program: always the root or below it. -/
def loggerName (name : Option String) : String :=
  match name with
  | none | some "" => root
  | some n =>
    if n = root ∨ (root ++ ".").toList.isPrefixOf n.toList then n else root ++ "." ++ n

/-- The levels from which a logger or a handler passes messages on. -/
inductive Threshold
  | debug | warning
deriving Repr, DecidableEq

/-- The name of a threshold. -/
def Threshold.name : Threshold → String
  | .debug => "DEBUG"
  | .warning => "WARNING"

/-- Where messages go. -/
inductive Handler
  | console (threshold : Threshold)
  | file (threshold : Threshold)
deriving Repr, DecidableEq

/-- The threshold of a handler. -/
def Handler.threshold : Handler → Threshold
  | .console t | .file t => t

/-- A configured root logger. -/
structure Configuration where
  threshold : Threshold
  handlers : List Handler
deriving Repr, DecidableEq

/-- The configuration with messages of all levels on the console or not, and with a file or not. A
file gets messages of all levels. -/
def configure (verbose toFile : Bool) : Configuration :=
  let console := if verbose then Threshold.debug else .warning
  if toFile then ⟨.debug, [.console console, .file .debug]⟩ else ⟨console, [.console console]⟩

end SchemaToSwift.Logging
