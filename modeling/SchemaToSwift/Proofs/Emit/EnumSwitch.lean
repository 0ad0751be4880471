import Mathlib
import SchemaToSwift.Proofs.Emit.Declaration
import SchemaToSwift.Proofs.Emit.Message
import SchemaToSwift.Proofs.FirstOccurrence
import SchemaToSwift.Proofs.Names.Path
import SchemaToSwift.Proofs.Swift.Letters
import SchemaToSwift.Proofs.Text.Dotted
import SchemaToSwift.Proofs.Text.OneLine

/-!
# Raw values of a generated enum

The declaration of an enum converts between raw values and cases by two switches. `EnumSwitches` are
such switches as they are read from the lines of a declaration, and the first arm that fits counts.
An emitted case is what its raw value makes, and a number that is not declared goes through
`UNRECOGNIZED` and comes back. Every number comes back exactly if no two emitted cases have one name
(`EnumType.switches_of_make`), and they have none if the letters of the declared names tell the
numbers apart. Reading the digits of a number gives the number by `Int.toInt?_repr`, a lemma that no
module of Mathlib reaches but its root: this is why the whole of it is imported here.
-/

namespace SchemaToSwift

/-- A value of a generated enum. -/
inductive EnumInstance
  | case (name : String)
  | unrecognized (number : Int)
deriving DecidableEq

/-- An arm of the switch over a raw value. -/
inductive InitArm
  | number (number : Int) (name : String)
  | other
deriving DecidableEq

/-- An arm of the switch over the cases. -/
inductive RawValueArm
  | case (name : String) (number : Int)
  | unrecognized
deriving DecidableEq

namespace InitArm

/-- What an arm makes of a raw value, if it fits. -/
def make? (n : Int) : InitArm → Option EnumInstance
  | number m name => if m = n then some (.case name) else none
  | other => some (.unrecognized n)

/-- Reads an arm for a number. -/
def readNumber? (cs : List Char) : Option InitArm := do
  let arm ← "    case ".toList.isPrefixOf? cs
  match Text.cut ':' arm with
  | (digits, some result) =>
    let name ← " self = .".toList.isPrefixOf? result
    return .number (← (String.ofList digits).toInt?) (String.ofList name)
  | (_, none) => none

/-- Reads an arm from its line. -/
def read? (line : String) : Option InitArm :=
  if line = "    default: self = .UNRECOGNIZED(rawValue)" then some .other
  else readNumber? line.toList

end InitArm

namespace RawValueArm

/-- The raw value that an arm gives, if it fits. -/
def give? (v : EnumInstance) : RawValueArm → Option Int
  | case name n => if v = .case name then some n else none
  | unrecognized =>
    match v with
    | .unrecognized n => some n
    | .case _ => none

/-- Reads an arm for a case. -/
def readCase? (cs : List Char) : Option RawValueArm := do
  let arm ← "    case .".toList.isPrefixOf? cs
  match Text.cut ':' arm with
  | (name, some result) =>
    let digits ← " return ".toList.isPrefixOf? result
    return .case (String.ofList name) (← (String.ofList digits).toInt?)
  | (_, none) => none

/-- Reads an arm from its line. -/
def read? (line : String) : Option RawValueArm :=
  if line = "    case .UNRECOGNIZED(let i): return i" then some .unrecognized
  else readCase? line.toList

end RawValueArm

/-- The switches of a generated enum, arm by arm. -/
structure EnumSwitches where
  inits : List InitArm
  rawValues : List RawValueArm

namespace EnumSwitches

variable (sw : EnumSwitches)

/-- The value that a raw value makes: that of the first arm that fits. -/
def init (n : Int) : Option EnumInstance := sw.inits.findSome? (·.make? n)

/-- The raw value of a value: that of the first arm that fits. -/
def rawValue (v : EnumInstance) : Option Int := sw.rawValues.findSome? (·.give? v)

/-- The lines of a declaration hold the switches: first the initialiser from a raw value and then
the raw value, each a switch of which every line is read as an arm. -/
def ReadFrom (access : String) (lines : List String) : Prop :=
  ∃ before inits between rawValues after, lines = before ++
      ["  " ++ access ++ "init?(rawValue: Int) \x7b", "    switch rawValue \x7b"] ++ inits ++
      ["    \x7d", "  \x7d"] ++ between ++
      ["  " ++ access ++ "var rawValue: Int \x7b", "    switch self \x7b"] ++ rawValues ++
      ["    \x7d", "  \x7d"] ++ after ∧
    inits.mapM InitArm.read? = some sw.inits ∧ rawValues.mapM RawValueArm.read? = some sw.rawValues

/-- Every number comes back from the value that it makes. -/
def Lossless : Prop := ∀ n, (sw.init n).bind sw.rawValue = some n

/-- The switches of emitted cases. -/
def ofCases (cases : List EnumCasePlan) : EnumSwitches where
  inits := cases.map (fun c => .number c.number c.name) ++ [.other]
  rawValues := cases.map (fun c => .case c.name c.number) ++ [.unrecognized]

end EnumSwitches

/-! ## Reading the arms -/

/-- After a prefix stands what follows it. -/
theorem isPrefixOf?_append (xs ys : List Char) : xs.isPrefixOf? (xs ++ ys) = some ys :=
  List.isPrefixOf?_eq_some_iff_append_eq.2 rfl

/-- A number is read as it is written. -/
theorem toInt?_toString (n : Int) : (toString n).toInt? = some n := by
  rw [Int.toString_eq_repr, Int.toInt?_repr]

namespace InitArm

/-- The line of an arm for a number is read as that arm. -/
theorem read?_number (n : Int) (name : String) :
    read? ("    case " ++ toString n ++ ": self = ." ++ name) = some (.number n name) := by
  have hline : ("    case " ++ toString n ++ ": self = ." ++ name).toList =
      "    case ".toList ++
        ((toString n).toList ++ ':' :: (" self = .".toList ++ name.toList)) := by
    simp
  have hother : "    case " ++ toString n ++ ": self = ." ++ name ≠
      "    default: self = .UNRECOGNIZED(rawValue)" := fun h => by
    have hchars := congrArg (·.toList.drop 4) h
    rw [hline] at hchars
    cases hchars
  rw [read?, if_neg hother, readNumber?, hline, isPrefixOf?_append]
  simp only [Option.bind_eq_bind, Option.bind_some]
  rw [Text.cut_append_cons (Text.not_mem_toString (by decide) (by decide) n)]
  simp only [isPrefixOf?_append, Option.bind_some, String.ofList_toList, toInt?_toString]
  rfl

/-- The lines of the switch over a raw value are read as its arms. -/
theorem mapM_read? (cases : List EnumCasePlan) :
    (cases.map (fun c => "    case " ++ toString c.number ++ ": self = ." ++ c.name) ++
      ["    default: self = .UNRECOGNIZED(rawValue)"]).mapM read? =
        some (EnumSwitches.ofCases cases).inits := by
  have hcases : (cases.map fun c => "    case " ++ toString c.number ++ ": self = ." ++ c.name).mapM
      read? = some (cases.map fun c => .number c.number c.name) := by
    induction cases with
    | nil => rfl
    | cons c rest ih =>
      rw [List.map_cons, List.mapM_cons, read?_number, ih]
      rfl
  rw [EnumSwitches.ofCases, List.mapM_append, hcases]
  rfl

end InitArm

namespace RawValueArm

section
variable {name : String} (hcolon : ':' ∉ name.toList) (hparen : '(' ∉ name.toList)
include hcolon hparen

/-- The line of an arm for a case is read as that arm. -/
theorem read?_case (n : Int) :
    read? ("    case ." ++ name ++ ": return " ++ toString n) = some (.case name n) := by
  have hline : ("    case ." ++ name ++ ": return " ++ toString n).toList =
      "    case .".toList ++
        (name.toList ++ ':' :: (" return ".toList ++ (toString n).toList)) := by
    simp
  have hother : "    case ." ++ name ++ ": return " ++ toString n ≠
      "    case .UNRECOGNIZED(let i): return i" := fun h => by
    have hchars := congrArg (fun s => (Text.cut ':' (s.toList.drop 10)).1) h
    have hname : (Text.cut ':' (("    case ." ++ name ++ ": return " ++
        toString n).toList.drop 10)).1 = name.toList := by
      rw [hline]
      change (Text.cut ':' (name.toList ++ _)).1 = _
      rw [Text.cut_append_cons hcolon]
    rw [hname] at hchars
    rw [hchars] at hparen
    exact hparen (by decide)
  rw [read?, if_neg hother, readCase?, hline, isPrefixOf?_append]
  simp only [Option.bind_eq_bind, Option.bind_some]
  rw [Text.cut_append_cons hcolon]
  simp only [isPrefixOf?_append, Option.bind_some, String.ofList_toList, toInt?_toString]
  rfl

end

/-- The lines of the switch over the cases are read as its arms. -/
theorem mapM_read? {cases : List EnumCasePlan}
    (h : ∀ c ∈ cases, ':' ∉ c.name.toList ∧ '(' ∉ c.name.toList) :
    (cases.map (fun c => "    case ." ++ c.name ++ ": return " ++ toString c.number) ++
      ["    case .UNRECOGNIZED(let i): return i"]).mapM read? =
        some (EnumSwitches.ofCases cases).rawValues := by
  have hcases : (cases.map fun c => "    case ." ++ c.name ++ ": return " ++ toString c.number).mapM
      read? = some (cases.map fun c => .case c.name c.number) := by
    induction cases with
    | nil => rfl
    | cons c rest ih =>
      obtain ⟨hcolon, hparen⟩ := h c (.head _)
      rw [List.map_cons, List.mapM_cons, read?_case hcolon hparen, ih fun d hd => h d (.tail _ hd)]
      rfl
  rw [EnumSwitches.ofCases, List.mapM_append, hcases]
  rfl

end RawValueArm

/-! ## The first arm that fits -/

/-- An element is the first one with its key, if no two elements have one key. -/
theorem find?_key {α β : Type} [DecidableEq β] (key : α → β) {xs : List α} {x : α}
    (hnodup : (xs.map key).Nodup) (hx : x ∈ xs) : xs.find? (key · = key x) = some x := by
  induction xs with
  | nil => cases hx
  | cons y rest ih =>
    rw [List.map_cons, List.nodup_cons] at hnodup
    rcases List.mem_cons.1 hx with rfl | hx
    · simp
    · have hne : key y ≠ key x := fun h => hnodup.1 (h ▸ List.mem_map_of_mem hx)
      rw [List.find?_cons_of_neg (by simpa using hne), ih hnodup.2 hx]

namespace EnumSwitches

variable (cases : List EnumCasePlan)

/-- A raw value makes the first case of that number. -/
theorem init_ofCases (n : Int) : (ofCases cases).init n =
    some (((cases.find? (·.number = n)).map fun c => .case c.name).getD (.unrecognized n)) := by
  rw [ofCases, init]
  induction cases with
  | nil => rfl
  | cons c rest ih =>
    rw [List.map_cons, List.cons_append, List.findSome?_cons, InitArm.make?]
    by_cases hc : c.number = n
    · simp [hc]
    · rw [if_neg hc, List.find?_cons_of_neg (by simpa using hc)]
      exact ih

/-- A case has the number of the first case of that name. -/
theorem rawValue_case (name : String) :
    (ofCases cases).rawValue (.case name) = (cases.find? (·.name = name)).map (·.number) := by
  unfold ofCases rawValue
  dsimp only
  induction cases with
  | nil => rfl
  | cons c rest ih =>
    rw [List.map_cons, List.cons_append, List.findSome?_cons, RawValueArm.give?]
    by_cases hc : c.name = name
    · simp [hc]
    · rw [if_neg (by simpa using Ne.symm hc), List.find?_cons_of_neg (by simpa using hc)]
      exact ih

/-- A value without a case has the number it was made of. -/
theorem rawValue_unrecognized (n : Int) :
    (ofCases cases).rawValue (.unrecognized n) = some n := by
  rw [ofCases, rawValue, List.findSome?_append]
  have hcases : (cases.map fun c => RawValueArm.case c.name c.number).findSome?
      (·.give? (.unrecognized n)) = none := by
    rw [List.findSome?_eq_none_iff]
    intro arm harm
    obtain ⟨c, -, rfl⟩ := List.mem_map.1 harm
    rfl
  rw [hcases]
  rfl

variable {cases} (hnumbers : (cases.map (·.number)).Nodup)
include hnumbers

/-- A number with a case makes that case. -/
theorem init_of_mem {c : EnumCasePlan} (hc : c ∈ cases) :
    (ofCases cases).init c.number = some (.case c.name) := by
  rw [init_ofCases, find?_key (·.number) hnumbers hc]
  rfl

/-- A case is what its raw value makes. -/
theorem init_rawValue {c : EnumCasePlan} (hc : c ∈ cases) :
    ((ofCases cases).rawValue (.case c.name)).bind (ofCases cases).init = some (.case c.name) := by
  rw [rawValue_case]
  have hsome : (cases.find? (·.name = c.name)).isSome = true :=
    List.find?_isSome.2 ⟨c, hc, by simp⟩
  obtain ⟨d, hd⟩ := Option.isSome_iff_exists.1 hsome
  have hname : d.name = c.name := by simpa using List.find?_some hd
  rw [hd, Option.map_some, Option.bind_some, init_of_mem hnumbers (List.mem_of_find?_eq_some hd),
    hname]

/-- Every number comes back exactly if no two cases have one name. -/
theorem lossless_iff :
    (ofCases cases).Lossless ↔ (cases.map (·.name)).Nodup := by
  constructor
  · intro h
    refine List.Nodup.map_on (fun c hc d hd hname => ?_) (List.Nodup.of_map _ hnumbers)
    -- both cases have the number of the first case of their name
    have hnumber (e : EnumCasePlan) (he : e ∈ cases) :
        (cases.find? (·.name = e.name)).map (·.number) = some e.number := by
      have hback := h e.number
      rwa [init_of_mem hnumbers he, Option.bind_some, rawValue_case] at hback
    refine List.inj_on_of_nodup_map hnumbers hc hd (Option.some.inj ?_)
    rw [← hnumber c hc, ← hnumber d hd, hname]
  · intro hnames n
    rw [init_ofCases, Option.bind_some]
    cases hfind : cases.find? (·.number = n) with
    | none => exact rawValue_unrecognized cases n
    | some c =>
      have hnumber : c.number = n := by simpa using List.find?_some hfind
      rw [Option.map_some, Option.getD_some, rawValue_case,
        find?_key (·.name) hnames (List.mem_of_find?_eq_some hfind), Option.map_some, hnumber]

end EnumSwitches

/-! ## The declaration of an enum -/

/-- The switches in the lines of a declaration. -/
theorem EnumBlock.readFrom_fullLines (b : EnumBlock) {cases : List EnumCasePlan}
    (hcases : b.cases = cases.map fun c => ⟨c.name, toString c.number, c.protoName⟩)
    (h : ∀ c ∈ cases, ':' ∉ c.name.toList ∧ '(' ∉ c.name.toList) :
    (EnumSwitches.ofCases cases).ReadFrom b.access b.fullLines := by
  let before := [b.access ++ "enum " ++ b.name ++ ": " ++ b.runtimePrefix ++
      "Enum, Swift.CaseIterable \x7b", "  " ++ b.access ++ "typealias RawValue = Int"] ++
    b.cases.map (fun c => "  case " ++ c.name ++ " // = " ++ c.number) ++
    ["  case UNRECOGNIZED(Int)", "", "  " ++ b.access ++ "init() \x7b",
      "    self = ." ++ b.defaultCase, "  \x7d", ""]
  let after := ["", "  // The compiler won't synthesize support with the UNRECOGNIZED case.",
      "  " ++ b.access ++ "static let allCases: [" ++ b.name ++ "] = ["] ++
    b.cases.map (fun c => "    ." ++ c.name ++ ",") ++ ["  ]", "", "\x7d"]
  refine ⟨before, _, [""], _, after, ?_, InitArm.mapM_read? cases, RawValueArm.mapM_read? h⟩
  simp [fullLines, hcases, before, after, Function.comp_def]

namespace EnumType

/-- The letters of the values' names, without the enum's prefix, tell their numbers apart. -/
def LettersApart (e : EnumType) : Prop :=
  ∀ v ∈ e.values, ∀ w ∈ e.values,
    Swift.letters (EnumCase.stripped e.name.display.toList v.name.display.toList) =
      Swift.letters (EnumCase.stripped e.name.display.toList w.name.display.toList) →
    v.number = w.number
deriving Decidable

/-- The first values are the first occurrences of their numbers. -/
theorem firstValues_eq (values : List EnumValue) :
    firstValues values = firstOccurrences (fun v w => v.number == w.number) values :=
  foldl_pushNew_nil (fun v w : EnumValue => v.number == w.number) values

/-- The numbers of the first values are all numbers, each once. -/
theorem map_number_firstValues (values : List EnumValue) :
    (firstValues values).map (·.number) = (values.map (·.number)).eraseDups := by
  rw [firstValues_eq, map_firstOccurrences]

end EnumType

namespace EnumPlan

/-- The case of a value with a textual name in an enum with one. -/
def caseOf (e : EnumType) (v : EnumValue) : EnumCasePlan :=
  ⟨EnumCase.name e.name.display v.name.display, v.number, v.name.display⟩

/-- The case of a value is named after the value. -/
theorem name_caseOf (e : EnumType) (v : EnumValue) :
    (caseOf e v).name = EnumCase.name e.name.display v.name.display := by
  simp only [caseOf]

/-- The cases of a typed enum are those of its first values. -/
theorem cases_of_make {t : NameTable} {shorten : Bool} {e : EnumType} (he : e.Typed)
    {plan : EnumPlan} (h : make t shorten e = .ok plan) :
    plan.cases = (EnumType.firstValues e.values).map (caseOf e) := by
  obtain ⟨swiftName, -, h⟩ := Result.bind_eq_ok_iff.1 h
  obtain ⟨cases, hcases, h⟩ := Result.bind_eq_ok_iff.1 h
  cases h
  have hmap : (EnumType.firstValues e.values).mapM (casePlan e.name) =
      .ok ((EnumType.firstValues e.values).map (caseOf e)) := by
    rw [Result.mapM_ok_iff, List.forall₂_map_right_iff, List.forall₂_same]
    intro v hv
    rw [casePlan, he.name.asText, Result.bind_ok,
      (he.values v (EnumType.firstValues_subset _ hv)).asText]
    rfl
  rw [hmap] at hcases
  exact (Except.ok.inj hcases).symm

section
variable {e : EnumType} (hvalues : ∀ v ∈ e.values, v.name.IsIdentifier)
include hvalues

/-- Identifiers are texts. -/
theorem typed_of_identified (he : e.Identified) : e.Typed :=
  ⟨he.name.isText, he.fullName, fun v hv => (hvalues v hv).isText⟩

/-- Case names are made of bare characters and backticks. -/
theorem not_mem_name_caseOf {v : EnumValue} (hv : v ∈ e.values) {c : Char}
    (hbare : Swift.isBareChar c = false) (hquote : c ≠ '\x60') :
    c ∉ (caseOf e v).name.toList := by
  rw [name_caseOf]
  exact EnumCase.not_mem_name (hvalues v hv).isBare _ hbare hquote

/-- Values whose numbers are told apart by the letters of their names have different cases. -/
theorem nodup_names_of_lettersApart (hletters : e.LettersApart) :
    (((EnumType.firstValues e.values).map (caseOf e)).map (·.name)).Nodup := by
  have hnumbers : ((EnumType.firstValues e.values).map (·.number)).Nodup := by
    rw [EnumType.map_number_firstValues]
    exact nodup_eraseDups _
  rw [List.map_map]
  refine List.Nodup.map_on (fun v hv w hw hname => ?_) (List.Nodup.of_map _ hnumbers)
  have hv' := EnumType.firstValues_subset _ hv
  have hw' := EnumType.firstValues_subset _ hw
  rw [Function.comp_apply, Function.comp_apply, name_caseOf, name_caseOf] at hname
  have hsame := EnumCase.letters_of_name_eq (hvalues v hv').isBare (hvalues w hw').isBare hname
  exact List.inj_on_of_nodup_map hnumbers hv hw (hletters v hv' w hw' hsame)

end

end EnumPlan

/-- The cases of an enum whose names are identifiers have all declared numbers, each once and in the
order in which they first occur. The declaration is printed with the two switches. By them a number
that is not declared goes through `UNRECOGNIZED` and comes back, and a case is what its raw value
makes. Every number comes back exactly if the names of the cases are distinct, which they are if the
letters of the values' names tell the numbers apart. -/
theorem EnumType.switches_of_make {file : Schema} {t : NameTable} (ht : t.TableOf file)
    (shorten : Bool) {e : EnumType} (he : e.Identified)
    (hvalues : ∀ v ∈ e.values, v.name.IsIdentifier) :
    ∃ plan, EnumPlan.make t shorten e = .ok plan ∧
      plan.cases.map (·.number) = (e.values.map (·.number)).eraseDups ∧
      (plan.cases.map (·.number)).Nodup ∧
      (∀ s : Surroundings, s.lite = false → ∀ p : Printer,
        ∃ (q : Printer) (block : EnumBlock) (sw : EnumSwitches),
          (plan.declaration s).Yields p q ∧
          Printer.Printed p (Printer.blockSteps block.text) q ∧
          block.text = unlines block.fullLines ∧ sw.ReadFrom s.access block.fullLines ∧
          (∀ n ∉ e.values.map (·.number), sw.init n = some (.unrecognized n) ∧
            sw.rawValue (.unrecognized n) = some n) ∧
          (∀ c ∈ plan.cases, (sw.rawValue (.case c.name)).bind sw.init = some (.case c.name)) ∧
          (sw.Lossless ↔ (plan.cases.map (·.name)).Nodup)) ∧
      (e.LettersApart → (plan.cases.map (·.name)).Nodup) := by
  have htyped := EnumPlan.typed_of_identified hvalues he
  obtain ⟨plan, hmake, swiftName, hname⟩ := EnumPlan.make_ok ht shorten htyped
  have hcases := EnumPlan.cases_of_make htyped hmake
  have hmap : plan.cases.map (·.number) = (e.values.map (·.number)).eraseDups := by
    rw [hcases, List.map_map, ← EnumType.map_number_firstValues]
    rfl
  have hnumbers : (plan.cases.map (·.number)).Nodup := by
    rw [hmap]
    exact nodup_eraseDups _
  refine ⟨plan, hmake, hmap, hnumbers, fun s hs p => ?_, fun hletters => ?_⟩
  · let block := plan.declarationBlock s swiftName
    have htext : block.text = unlines block.fullLines := by
      rw [EnumBlock.text]
      exact congrArg unlines (if_neg (by simp [block, EnumPlan.declarationBlock, hs]))
    have hread : (EnumSwitches.ofCases plan.cases).ReadFrom s.access block.fullLines := by
      refine block.readFrom_fullLines rfl fun c hc => ?_
      rw [hcases] at hc
      obtain ⟨v, hv, rfl⟩ := List.mem_map.1 hc
      have hv' := EnumType.firstValues_subset _ hv
      exact ⟨EnumPlan.not_mem_name_caseOf hvalues hv' rfl (by decide),
        EnumPlan.not_mem_name_caseOf hvalues hv' rfl (by decide)⟩
    obtain ⟨q, hyields⟩ : ∃ q, (plan.declaration s).Yields p q :=
      ⟨_, Prod.ext rfl (EnumPlan.ends_declaration ⟨swiftName, hname⟩ s p)⟩
    obtain ⟨name, htextName, hprinted⟩ := Emission.printed_block hyields
    rw [hname] at htextName
    cases htextName
    refine ⟨q, block, EnumSwitches.ofCases plan.cases, hyields, hprinted, htext, hread, ?_,
      fun c hc => EnumSwitches.init_rawValue hnumbers hc, EnumSwitches.lossless_iff hnumbers⟩
    intro n hn
    refine ⟨?_, EnumSwitches.rawValue_unrecognized _ n⟩
    have hnone : plan.cases.find? (·.number = n) = none := by
      rw [List.find?_eq_none]
      intro c hc hnumber
      refine hn (List.mem_eraseDups.1 ?_)
      rw [← hmap, List.mem_map]
      exact ⟨c, hc, by simpa using hnumber⟩
    rw [EnumSwitches.init_ofCases, hnone]
    rfl
  · rw [hcases]
    exact EnumPlan.nodup_names_of_lettersApart hvalues hletters

/-- An enum of which two values share a number. -/
def EnumType.aliased : EnumType where
  name := .str "Kind"
  fullName := .str "Kind"
  values := [⟨.str "KIND_NONE", 0⟩, ⟨.str "KIND_SOME", 1⟩, ⟨.str "KIND_ANY", 1⟩]

theorem EnumType.switches_of_make_aliased :
    ∃ t plan, NameTable.ofSchema (.blank "a.proto") [] "SwiftProtobuf" = .ok t ∧
      EnumPlan.make t false aliased = .ok plan ∧ plan.cases.map (·.number) = [0, 1] ∧
      ∀ s : Surroundings, s.lite = false → ∀ p : Printer,
        ∃ (q : Printer) (block : EnumBlock) (sw : EnumSwitches),
          (plan.declaration s).Yields p q ∧ sw.ReadFrom s.access block.fullLines ∧
          Printer.Printed p (Printer.blockSteps (unlines block.fullLines)) q ∧ sw.Lossless := by
  obtain ⟨t, ht, htable⟩ :=
    NameTable.tableOf_ofSchema (Schema.typed_blank "a.proto") [] "SwiftProtobuf"
  have hidentified : aliased.Identified := ⟨⟨"Kind", rfl, by decide⟩, "Kind", rfl⟩
  have hvalues : ∀ v ∈ aliased.values, v.name.IsIdentifier := by
    intro v hv
    simp only [aliased, List.mem_cons, List.not_mem_nil, or_false] at hv
    rcases hv with rfl | rfl | rfl
    · exact ⟨"KIND_NONE", rfl, by decide⟩
    · exact ⟨"KIND_SOME", rfl, by decide⟩
    · exact ⟨"KIND_ANY", rfl, by decide⟩
  obtain ⟨plan, hmake, hnumbers, -, hprinted, hnames⟩ :=
    switches_of_make htable false hidentified hvalues
  refine ⟨t, plan, ht, hmake, hnumbers.trans (by decide), fun s hs p => ?_⟩
  obtain ⟨q, block, sw, hyields, hblock, htext, hread, -, -, hlossless⟩ := hprinted s hs p
  rw [htext] at hblock
  exact ⟨q, block, sw, hyields, hread, hblock, hlossless.2 (hnames (by decide +kernel))⟩

/-- With the enum's prefix and without it, two values can have one case. -/
example : EnumCase.name "Foo" "FOO_BAR" = EnumCase.name "Foo" "BAR" := by decide +kernel

end SchemaToSwift
