import SchemaToSwift.Emit.File

/-!
# Outcomes

What generation gives for one schema file: the output file, or the reason why there is none. In a
batch every file is generated on its own, and a file whose output name an earlier one has taken
gives no output either. Only faults stop a batch.
-/

namespace SchemaToSwift

/-- Why a schema file gives no output file. -/
inductive Rejection
  | generation (error : GenerationError)
  /-- The output name is that of an earlier file. -/
  | collision (file output owner : String)
deriving Repr

/-- The sentence for a rejection. -/
def Rejection.message : Rejection → String
  | .generation e => e.message
  | .collision file output owner =>
    file ++ ": output filename '" ++ output ++ "' collides with the output of " ++ owner

/-- What generation gives for a schema file. -/
inductive Outcome
  | generated (file output content : String)
  | rejected (file : String) (reason : Rejection)
deriving Repr

namespace Outcome

/-- The schema file. -/
def file : Outcome → String
  | .generated file .. | .rejected file _ => file

/-- Whether there is an output file. -/
def isGenerated : Outcome → Bool
  | .generated .. => true
  | .rejected .. => false

end Outcome

/-- The printer that files are generated with. -/
def filePrinter : Printer := .new "  "

/-- The outcome of a planned file. -/
def FilePlan.outcome (plan : FilePlan) : Except Fault Outcome :=
  match plan.output filePrinter with
  | (printer, .ok ()) => .ok (.generated plan.file.name plan.outputName printer.content)
  | (_, .error (.reported e)) => .ok (.rejected plan.file.name (.generation e))
  | (_, .error (.escaped fault)) => .error fault

/-- The outcome of a schema file. -/
def Schema.generate (settings : Settings) (file : Schema) : Except Fault Outcome := do
  (← FilePlan.make settings file).outcome

namespace Batch

/-- Whether a file is wanted, where all files are wanted unless names are given. -/
def isWanted (wanted : Option (List String)) (file : Schema) : Bool :=
  match wanted with
  | none => true
  | some names => file.name ∈ names

/-- The outcome of a file after others, and the output names with their owners after it. An output
name that has an owner turns the outcome into a rejection. -/
def claim (owners : List (String × String)) (outcome : Outcome) :
    List (String × String) × Outcome :=
  match outcome with
  | .generated file output content =>
    match owners.lookup output with
    | some owner => (owners, .rejected file (.collision file output owner))
    | none => (owners ++ [(output, file)], .generated file output content)
  | .rejected .. => (owners, outcome)

/-- The outcomes with collisions rejected, given the output names that have owners already. -/
def claimAll (owners : List (String × String)) : List Outcome → List Outcome
  | [] => []
  | o :: rest =>
    let (owners, o) := claim owners o
    o :: claimAll owners rest

/-- The outcomes of the wanted files, in order. -/
def generate (settings : Settings) (wanted : Option (List String)) (files : List Schema) :
    Except Fault (List Outcome) := do
  let outcomes ← (files.filter (isWanted wanted)).mapM (Schema.generate settings)
  return claimAll [] outcomes

end Batch

end SchemaToSwift
