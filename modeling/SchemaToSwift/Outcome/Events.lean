import SchemaToSwift.Journal
import SchemaToSwift.Outcome

/-!
# Events of a batch

Generating a batch touches no files, so what it tells is a function of the same outcomes that it
gives. The events end where a fault stops the batch.
-/

namespace SchemaToSwift.Batch

/-- The events of generating one file, up to the fault that stops it. -/
def fileEvents (settings : Settings) (file : Schema) : List Event :=
  match FilePlan.make settings file with
  | .error _ => []
  | .ok plan =>
    match plan.checkPrefix with
    | .error (.reported e) => [.generationFailed file.name e.message]
    | .error (.escaped _) => []
    | .ok () =>
      .generating file.name settings.profile :: match plan.outcome with
        | .ok (.rejected _ (.generation e)) => [.generationFailed file.name e.message]
        | _ => []

/-- The events of generating files one after the other, with the output names that have owners. -/
def filesEvents (settings : Settings) (owners : List (String × String)) :
    List Schema → List Event
  | [] => []
  | file :: rest =>
    fileEvents settings file ++ match Schema.generate settings file with
      | .error _ => []
      | .ok outcome =>
        match claim owners outcome with
        | (owners, .rejected _ reason@(.collision ..)) =>
          .collided reason.message :: filesEvents settings owners rest
        | (owners, _) => filesEvents settings owners rest

/-- The events of a batch. -/
def events (settings : Settings) (wanted : Option (List String)) (files : List Schema) :
    List Event :=
  filesEvents settings [] (files.filter (isWanted wanted)) ++
    match generate settings wanted files with
    | .ok outcomes =>
      [.batchDone outcomes.length (outcomes.filter (!·.isGenerated)).length]
    | .error _ => []

end SchemaToSwift.Batch
