import SchemaToSwift.Names.Table
import SchemaToSwift.Printer
import SchemaToSwift.Settings.Basic

/-!
# Emission

An `Emission` prints generated code and may stop on the way; what was printed before it stopped
stays in the printer. The combinators print lines, go on after each other, indent, and stop.
-/

namespace SchemaToSwift

/-- Why the code of a file cannot be generated. -/
inductive GenerationError
  /-- The prefix that the file asks for is no identifier. -/
  | badPrefix (file typePrefix : String)
  /-- A field whose type is declared somewhere does not name it. -/
  | noTypeName (file : String) (message field : Json)
  /-- Two fields of a message have the same property. -/
  | sameProperty (file : String) (first second : String) (message : Json) (property : String)
deriving Repr

/-- The sentence for an error. -/
def GenerationError.message : GenerationError → String
  | .badPrefix file typePrefix =>
    file ++ " has an 'swift_prefix' that isn't a valid Swift identifier (" ++ typePrefix ++ ")."
  | .noTypeName file message field =>
    file ++ ": field '" ++ message.display ++ "." ++ field.display ++ "' has no type name."
  | .sameProperty file first second message property =>
    file ++ ": fields '" ++ first ++ "' and '" ++ second ++ "' of '" ++ message.display ++
      "' both map to the Swift property '" ++ property ++ "'."

/-- Printing that may stop. -/
abbrev Emission := Printer → Printer × Except (Failure GenerationError) Unit

namespace Emission

/-- Prints nothing. -/
def nothing : Emission := fun p => (p, .ok ())

/-- Stops. -/
def stop (e : Failure GenerationError) : Emission := fun p => (p, .error e)

/-- Prints texts, each with a line feed after it; no texts are a blank line. -/
def lines (texts : List String) : Emission := fun p => (p.printLines texts, .ok ())

/-- Prints a text as it is. -/
def text (s : String) : Emission := fun p => (p.printTexts [s], .ok ())

/-- Prints one after the other, unless the first stops. -/
def andThen (a b : Emission) : Emission := fun p =>
  match a p with
  | (q, .ok ()) => b q
  | (q, .error e) => (q, .error e)

/-- Prints all, up to the first that stops. -/
def all (es : List Emission) : Emission := es.foldr andThen nothing

/-- Prints one level further in, and goes back out in any case. -/
def inside (a : Emission) : Emission := fun p =>
  let (q, result) := a p.indent
  (q.outdent?.getD q, result)

/-- Goes on with a value, or stops with its error. -/
def on {α : Type} (value : Except (Failure GenerationError) α) (next : α → Emission) : Emission :=
  match value with
  | .ok a => next a
  | .error e => stop e

/-- Goes on with a value, or stops with its fault. -/
def onValue {α : Type} (value : Except Fault α) (next : α → Emission) : Emission :=
  on (Failure.escape value) next

end Emission

/-- What all blocks of a file have in common. -/
structure Surroundings where
  /-- The modifier of declarations. -/
  access : String
  runtimePrefix : String
  runtimeModule : String
  lite : Bool
deriving Repr, DecidableEq

/-- The surroundings that settings and the names of a file give. -/
def Surroundings.of (s : Settings) (t : NameTable) : Surroundings where
  access := s.access.modifier
  runtimePrefix := t.runtimePrefix
  runtimeModule := t.runtimeModule
  lite := s.isLite

end SchemaToSwift
