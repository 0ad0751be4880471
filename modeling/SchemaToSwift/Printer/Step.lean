import SchemaToSwift.Printer

/-!
# Printing steps

Printing as data: a step prints texts or changes the indentation, and an indented block holds steps
of its own. A step that would go further out than the outermost level fails; it ends the block it
stands in, and a block goes back out by one level in any case.
-/

namespace SchemaToSwift.Printer

/-- A printing step. -/
inductive Step
  | lines (texts : List String)
  | texts (texts : List String)
  | indentedLines (texts : List String)
  | indentedTexts (texts : List String)
  | indent
  | outdent
  | block (steps : List Step)
deriving Repr

/-- The printer one level further out, and whether there was one. -/
def goOut (p : Printer) : Printer × Bool :=
  match p.outdent? with
  | some q => (q, true)
  | none => (p, false)

mutual

/-- The printer after a step, and whether the step succeeded. -/
def run (p : Printer) : Step → Printer × Bool
  | .lines texts => (p.printLines texts, true)
  | .texts texts => (p.printTexts texts, true)
  | .indentedLines texts => (p.indented (·.printLines texts), true)
  | .indentedTexts texts => (p.indented (·.printTexts texts), true)
  | .indent => (p.indent, true)
  | .outdent => p.goOut
  | .block steps =>
    let (q, ok) := runAll p.indent steps
    let (q, out) := q.goOut
    (q, ok && out)

/-- The printer after steps up to the first that fails, and whether all succeeded. -/
def runAll (p : Printer) : List Step → Printer × Bool
  | [] => (p, true)
  | s :: rest =>
    let (q, ok) := run p s
    if ok then runAll q rest else (q, false)

end

end SchemaToSwift.Printer
