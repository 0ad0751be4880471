import SchemaToSwift.Block.Enum
import SchemaToSwift.Emit.Basic

/-!
# Emission of an enum

An `EnumPlan` holds the Swift name of an enum and its cases: of values that share a number only the
first has a case. The plan prints the declaration and, in the full profile, the runtime support.
-/

namespace SchemaToSwift

/-- A case of a generated enum. -/
structure EnumCasePlan where
  name : String
  number : Int
  protoName : String
deriving Repr, DecidableEq

/-- A generated enum. -/
structure EnumPlan where
  swiftName : Json
  cases : List EnumCasePlan
deriving Repr

/-- The values without those whose number an earlier one has. -/
def EnumType.firstValues (values : List EnumValue) : List EnumValue :=
  values.foldl (fun acc v => if acc.any (·.number == v.number) then acc else acc ++ [v]) []

namespace EnumPlan

/-- The case of a value. -/
def casePlan (enum : Json) (v : EnumValue) : Except Fault EnumCasePlan := do
  let enumName ← enum.asText .wrongType
  let valueName ← v.name.asText .noOperation
  return { name := EnumCase.name enumName valueName, number := v.number, protoName := valueName }

/-- The plan for an enum. -/
def make (t : NameTable) (shorten : Bool) (e : EnumType) : Except Fault EnumPlan := do
  let swiftName ← t.typeNameOf e.fullName shorten
  let cases ← (EnumType.firstValues e.values).mapM (casePlan e.name)
  return { swiftName, cases }

variable (plan : EnumPlan) (s : Surroundings)

/-- The cases as the blocks print them. -/
def caseTexts : List EnumCaseText :=
  plan.cases.map fun c => ⟨c.name, toString c.number, c.protoName⟩

/-- The case that a new value has. -/
def defaultCase : String :=
  match plan.cases with
  | [] => "UNRECOGNIZED(0)"
  | c :: _ => c.name

/-- The declaration of an enum of the given name. Inside its own body a nested enum has its last
name only. -/
def declarationBlock (name : String) : EnumBlock where
  lite := s.lite
  access := s.access
  runtimePrefix := s.runtimePrefix
  name := Text.lastComponent name
  cases := plan.caseTexts
  defaultCase := plan.defaultCase

/-- The runtime support of an enum of the given name. -/
def runtimeBlock (name : String) : EnumRuntimeBlock where
  access := s.access
  runtimePrefix := s.runtimePrefix
  name := name
  cases := plan.caseTexts

/-- Prints the declaration after a blank line. A name that is no string has no last name. -/
def declaration : Emission :=
  Emission.all [.lines [],
    .onValue (plan.swiftName.asText .noOperation) fun name =>
      .lines [Text.dropTrailing '\n' (plan.declarationBlock s name).text]]

/-- Prints the runtime support after a blank line. -/
def runtimeSupport : Emission :=
  Emission.all [.lines [],
    .onValue plan.swiftName.shown fun name =>
      .lines [Text.dropTrailing '\n' (plan.runtimeBlock s name).text]]

end EnumPlan

end SchemaToSwift
