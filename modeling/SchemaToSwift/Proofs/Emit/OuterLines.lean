import SchemaToSwift.Proofs.Emit.BlockLines
import SchemaToSwift.Proofs.Emit.Code
import SchemaToSwift.Proofs.FileName
import SchemaToSwift.Proofs.Names.OneLine
import SchemaToSwift.Proofs.Printer.Outer

/-!
# Lines that are printed outside of blocks

Which lines an emission prints outside of indented blocks is known from the lines of its texts
(`Emission.PrintsLines`). If the names of a schema file are texts of one line, all that is printed
after the imports has lines of blocks only, but for those that the name of the schema file brings in
(`FilePlan.printsLines_fullBody`). The induction goes along the messages and those nested in them:
what is nested in a declaration is printed further in, and its runtime support is not.
-/

namespace SchemaToSwift

open Text (EachLine)
open Printer (AllWhole outerTexts)

/-! ## Emissions -/

namespace Emission

/-- An emission that, printed to the end, prints whole lines, and outside of blocks only such that
have the property. -/
def PrintsLines (P : String → Prop) (a : Emission) : Prop :=
  ∀ p q, a.Yields p q → ∃ steps, Printer.Printed p steps q ∧ AllWhole steps ∧
    ∀ text ∈ outerTexts steps, EachLine P text

section
variable {P Q : String → Prop} {a b : Emission}

/-- A property that follows from that of all lines is one of all lines. -/
theorem PrintsLines.mono (h : a.PrintsLines P) (hPQ : ∀ line, P line → Q line) :
    a.PrintsLines Q := by
  intro p q hq
  obtain ⟨steps, hprinted, hwhole, hlines⟩ := h p q hq
  exact ⟨steps, hprinted, hwhole, fun text htext => (hlines text htext).mono hPQ⟩

/-- Nothing has no lines. -/
theorem printsLines_nothing : nothing.PrintsLines P := by
  intro p q h
  obtain rfl := yields_nothing.1 h
  exact ⟨[], .nil p, trivial, List.forall_mem_nil _⟩

/-- Lines have the lines of their texts. -/
theorem printsLines_lines {texts : List String} (h : ∀ text ∈ texts, EachLine P text) :
    (lines texts).PrintsLines P := by
  intro p q hq
  obtain rfl := yields_lines.1 hq
  refine ⟨_, .lines p texts, ⟨trivial, trivial⟩, fun text htext => h text ?_⟩
  simpa [outerTexts, Printer.Step.outerTexts] using htext

/-- Emissions one after the other have the lines of both. -/
theorem PrintsLines.andThen (ha : a.PrintsLines P) (hb : b.PrintsLines P) :
    (a.andThen b).PrintsLines P := by
  intro p q h
  obtain ⟨r, hr, hq⟩ := yields_andThen.1 h
  obtain ⟨xs, hprinted, hwhole, hlines⟩ := ha p r hr
  obtain ⟨ys, hprinted', hwhole', hlines'⟩ := hb r q hq
  refine ⟨xs ++ ys, hprinted.append hprinted', Printer.allWhole_append.2 ⟨hwhole, hwhole'⟩, ?_⟩
  rw [Printer.outerTexts_append]
  exact List.forall_mem_append.2 ⟨hlines, hlines'⟩

theorem printsLines_nil : (all []).PrintsLines P := printsLines_nothing

/-- So a list has those of the first and those of the others. -/
theorem PrintsLines.cons {es : List Emission} (ha : a.PrintsLines P)
    (hes : (all es).PrintsLines P) : (all (a :: es)).PrintsLines P := ha.andThen hes

/-- So it has those of all in it. -/
theorem printsLines_all {es : List Emission} (h : ∀ e ∈ es, e.PrintsLines P) :
    (all es).PrintsLines P := by
  induction es with
  | nil => exact printsLines_nil
  | cons e rest ih =>
    obtain ⟨he, hrest⟩ := List.forall_mem_cons.1 h
    exact he.cons (ih hrest)

/-- What is printed one level further in is not printed outside of blocks. -/
theorem PrintsLines.inside (h : a.PrintsLines Q) : a.inside.PrintsLines P := by
  intro p q hq
  obtain ⟨r, hr, rfl⟩ := yields_inside.1 hq
  obtain ⟨steps, hprinted, hwhole, -⟩ := h p.indent r hr
  exact ⟨_, hprinted.block, ⟨hwhole, trivial⟩, List.forall_mem_nil _⟩

/-- What depends on a value has the property if it has it for each value. -/
theorem printsLines_on {α : Type} {value : Except (Failure GenerationError) α}
    {next : α → Emission} (h : ∀ x, value = .ok x → (next x).PrintsLines P) :
    (on value next).PrintsLines P := by
  intro p q hq
  obtain ⟨x, hx, hq⟩ := yields_on.1 hq
  exact h x hx p q hq

/-- So it has if the value fails with an unexpected fault. -/
theorem printsLines_onValue {α : Type} {value : Except Fault α} {next : α → Emission}
    (h : ∀ x, value = .ok x → (next x).PrintsLines P) : (onValue value next).PrintsLines P := by
  intro p q hq
  obtain ⟨x, hx, hq⟩ := yields_onValue.1 hq
  exact h x hx p q hq

/-- A block prints its lines. -/
theorem printsLines_text {text : String} (h : EachLine P text) :
    (lines [Text.dropTrailing '\n' text]).PrintsLines P :=
  printsLines_lines (List.forall_mem_singleton.2 h.dropTrailing)

/-- A blank line has none but itself. -/
theorem printsLines_blank : (lines []).PrintsLines P := printsLines_lines (List.forall_mem_nil _)

end

end Emission

open Emission

/-! ## Settings -/

/-- Surroundings that are texts of one line. -/
structure Surroundings.OneLine (s : Surroundings) : Prop where
  access : Text.OneLine s.access
  runtimePrefix : Text.OneLine s.runtimePrefix
  runtimeModule : Text.OneLine s.runtimeModule

variable {t : NameTable} {s : Surroundings} {shorten : Bool}

/-- What a file gives to all its declarations is one line where its names are. -/
theorem NameTable.OneLine.surroundings (ht : t.OneLine) (settings : Settings) :
    (Surroundings.of settings t).OneLine where
  access := by
    unfold Surroundings.of Access.modifier
    dsimp only
    split <;> decide
  runtimePrefix := ht.runtimePrefix
  runtimeModule := ht.runtimeModule

/-- So is the Swift name of a type. -/
theorem NameTable.OneLine.typeNameOf (ht : t.OneLine) {fullName v : Json} (hname : fullName.IsLine)
    (h : t.typeNameOf fullName shorten = .ok v) : v.IsLine := by
  rw [NameTable.typeNameOf_eq_ok h]
  exact ht.typeName hname.display shorten

/-- The text of a value that is a text of one line. -/
theorem Json.IsLine.of_asText {v : Json} (h : v.IsLine) {fault : Fault} {text : String}
    (htext : v.asText fault = .ok text) : Text.OneLine text := by
  obtain ⟨s, rfl, hs⟩ := h
  cases htext
  exact hs

/-- What is shown of a text of one line is that text. -/
theorem Json.IsLine.of_shown {v : Json} (h : v.IsLine) {text : String}
    (htext : v.shown = .ok text) : Text.OneLine text := by
  rw [← Json.shown_eq_ok htext]
  exact h.display

/-! ## Enums -/

/-- The plan of an enum whose names are texts of one line. -/
structure EnumPlan.OneLine (plan : EnumPlan) : Prop where
  swiftName : plan.swiftName.IsLine
  cases : ∀ c ∈ plan.cases, Text.OneLine c.name

namespace EnumPlan

/-- An enum whose names are one line has a plan of such names. -/
theorem oneLine_of_make (ht : t.OneLine) {e : EnumType} (he : e.OneLine) {plan : EnumPlan}
    (h : make t shorten e = .ok plan) : plan.OneLine := by
  obtain ⟨swiftName, hname, h⟩ := Result.bind_eq_ok_iff.1 h
  obtain ⟨cases, hcases, h⟩ := Result.bind_eq_ok_iff.1 h
  cases h
  refine ⟨ht.typeNameOf he.fullName hname, fun c hc => ?_⟩
  obtain ⟨v, hv, hmade⟩ := Result.exists_of_mem_mapM hcases hc
  obtain ⟨enumName, -, hmade⟩ := Result.bind_eq_ok_iff.1 hmade
  obtain ⟨valueName, hvalue, hmade⟩ := Result.bind_eq_ok_iff.1 hmade
  rw [Result.pure_eq, Except.ok.injEq] at hmade
  subst hmade
  dsimp only
  have hline := he.values v (EnumType.firstValues_subset _ hv)
  exact EnumCase.oneLine_name enumName (hline.of_asText hvalue)

/-- So have all enums of a list. -/
theorem oneLine_of_mapM (ht : t.OneLine) {enums : List EnumType} (henums : ∀ e ∈ enums, e.OneLine)
    {plans : List EnumPlan} (h : enums.mapM (make t shorten) = .ok plans) :
    ∀ plan ∈ plans, plan.OneLine := by
  intro plan hplan
  obtain ⟨e, he, hmade⟩ := Result.exists_of_mem_mapM h hplan
  exact oneLine_of_make ht (henums e he) hmade

section
variable {plan : EnumPlan} (hs : s.OneLine) (h : plan.OneLine)
include hs h

/-- The declaration of an enum has lines of a block. -/
theorem printsLines_declaration : (plan.declaration s).PrintsLines IsBlockLine := by
  have hcases : ∀ c ∈ plan.caseTexts, c.OneLine :=
    List.forall_mem_map.2 fun c hc => ⟨h.cases c hc, Text.oneLine_toString c.number⟩
  have hdefault : Text.OneLine plan.defaultCase := by
    unfold defaultCase
    split
    · decide
    · next c rest hcons => exact h.cases c (by rw [hcons]; exact .head _)
  refine printsLines_blank.cons (PrintsLines.cons ?_ printsLines_nil)
  refine printsLines_onValue fun name hname => printsLines_text ?_
  have hline := h.swiftName.of_asText hname
  exact EnumBlock.eachLine_text hs.access hs.runtimePrefix hline.cutLast.2 hcases hdefault

/-- So has its runtime support. -/
theorem printsLines_runtimeSupport : (plan.runtimeSupport s).PrintsLines IsBlockLine := by
  refine printsLines_blank.cons (PrintsLines.cons ?_ printsLines_nil)
  refine printsLines_onValue fun name hname => printsLines_text ?_
  refine EnumRuntimeBlock.eachLine_text hs.access hs.runtimePrefix (h.swiftName.of_shown hname) ?_
  exact List.forall_mem_map.2 fun c _ => Text.oneLine_toString c.number

end

section
variable (hs : s.OneLine) {plans : List EnumPlan} (h : ∀ plan ∈ plans, plan.OneLine)
include hs h

/-- So have the declarations of several enums. -/
theorem printsLines_declarations :
    (all (plans.map (·.declaration s))).PrintsLines IsBlockLine :=
  printsLines_all <| List.forall_mem_map.2 fun plan hplan =>
    printsLines_declaration hs (h plan hplan)

/-- So has the runtime support of several enums. -/
theorem printsLines_runtimeSupports :
    (all (plans.map (·.runtimeSupport s))).PrintsLines IsBlockLine :=
  printsLines_all <| List.forall_mem_map.2 fun plan hplan =>
    printsLines_runtimeSupport hs (h plan hplan)

end

end EnumPlan

/-! ## Fields -/

/-- The plan of a field whose names are texts of one line. -/
structure FieldPlan.OneLine (plan : FieldPlan) : Prop where
  property : Text.OneLine plan.property
  declaration : plan.declaration.IsLine
  initialValue : Text.OneLine plan.initialValue

namespace FieldPlan

/-- Fields whose names are one line have plans of such names. -/
theorem oneLine_of_makeAll (ht : t.OneLine) {message : Json} {fs : List Field}
    (hfs : ∀ f ∈ fs, f.OneLine) {plans : List FieldPlan}
    (h : makeAll t shorten message [] fs = .ok plans) : ∀ plan ∈ plans, plan.OneLine := by
  obtain ⟨own, rfl, hown⟩ := forall₂_of_makeAll
    (R := fun f plan => f.OneLine → plan.OneLine)
    (fun hplan hf => by
      obtain ⟨name, stored, declaration, hname, -, hstored, hdeclaration, rfl⟩ := make_eq_ok hplan
      have hline := hf.name
      rw [hname, Json.isLine_str] at hline
      have htype := ht.storedType hf.typeName hstored
      refine ⟨?_, htype.declaration hdeclaration, htype.initialValue⟩
      dsimp only
      exact oneLine_propertyName hline) h
  clear h
  induction hown with
  | nil => exact List.forall_mem_nil _
  | cons hplan _ ih =>
    obtain ⟨hf, hrest⟩ := List.forall_mem_cons.1 hfs
    exact List.forall_mem_cons.2 ⟨hplan hf, ih hrest⟩

/-- The stored property of such a plan is one line. -/
theorem oneLine_propertyText {plan : FieldPlan} (h : plan.OneLine) {property : PropertyText}
    (hproperty : plan.propertyText = .ok property) : property.OneLine := by
  obtain ⟨declaration, hdeclaration, hproperty⟩ := Result.bind_eq_ok_iff.1 hproperty
  cases hproperty
  exact ⟨h.property, h.declaration.of_shown hdeclaration, h.initialValue⟩

/-- Its entry in the table of names has a number and a kind of one line. -/
theorem oneLine_nameEntry (plan : FieldPlan) :
    Text.OneLine plan.nameEntry.number ∧ Text.OneLine plan.nameEntry.kind := by
  refine ⟨Text.oneLine_toString plan.number, ?_⟩
  unfold nameEntry
  dsimp only
  split <;> decide

end FieldPlan

/-! ## Messages -/

namespace MessagePlan

/-- The expression of a proto name is one line if the names in it are. -/
theorem oneLine_protoName (hasPackage : Bool) {swiftName name : String}
    (hswift : Text.OneLine swiftName) (hname : Text.OneLine name) :
    Text.OneLine (protoName hasPackage swiftName name) := by
  have hscope := hswift.cutLast.1
  unfold protoName
  dsimp only
  split
  · simp only [Text.oneLine_append, hscope, hname, true_and, and_true]
    decide
  · split
    · simp only [Text.oneLine_append, hname, and_true]
      decide
    · simp only [Text.oneLine_append, hname, and_true]
      decide

/-- The head of a message has lines of a block. -/
theorem eachLine_head (hs : s.OneLine) {swiftName : String} (hswift : Text.OneLine swiftName)
    {fields : List FieldPlan} (hfields : ∀ plan ∈ fields, plan.OneLine)
    {properties : List PropertyText} (h : fields.mapM (·.propertyText) = .ok properties) :
    EachLine IsBlockLine (head s swiftName properties).text := by
  refine MessageBlock.eachLine_text hs.access hs.runtimePrefix hs.runtimeModule hswift.cutLast.2 ?_
  intro property hproperty
  obtain ⟨plan, hplan, hmade⟩ := Result.exists_of_mem_mapM h hproperty
  exact FieldPlan.oneLine_propertyText (hfields plan hplan) hmade

mutual

/-- The declaration of a message. -/
theorem printsLines_declaration (ht : t.OneLine) (hs : s.OneLine) :
    ∀ {m : MessageType}, (∀ n ∈ m.subtree, n.OneLine) →
      ∀ {set set' : ExtensionSet} {plan : MessagePlan}, make t shorten m set = (set', .ok plan) →
        (plan.declaration s).PrintsLines IsBlockLine
  | ⟨name, fullName, fields, messages, enums, extensions⟩, hm, set, set', plan, h => by
    obtain ⟨hown, hnested⟩ := MessageType.forall_mem_subtree.1 hm
    obtain ⟨swiftName, enumPlans, plans, set₁, hname, henums, -, hmessages, rfl⟩ := make_eq_ok h
    have hline := ht.typeNameOf hown.fullName hname
    rw [declaration]
    refine printsLines_on fun fieldPlans hfields => ?_
    have hhead : (onValue (swiftName.asText .noOperation) fun swiftName =>
        onValue (fieldPlans.mapM (·.propertyText)) fun properties =>
          .lines [Text.dropTrailing '\n' (head s swiftName properties).text]).PrintsLines
        IsBlockLine :=
      printsLines_onValue fun text htext => printsLines_onValue fun properties hproperties =>
        printsLines_text <| eachLine_head hs (hline.of_asText htext)
          (FieldPlan.oneLine_of_makeAll ht hown.fields hfields) hproperties
    have hinside := EnumPlan.printsLines_declarations hs
      (EnumPlan.oneLine_of_mapM ht hown.enums henums)
    have hmember := printsLines_declarations ht hs hnested hmessages
    have hinit : (lines [s.access ++ "init() \x7b\x7d"]).PrintsLines fun _ => True :=
      printsLines_lines fun _ _ _ _ => trivial
    have hend : (lines ["\x7d"]).PrintsLines IsBlockLine :=
      printsLines_lines <| List.forall_mem_singleton.2 <|
        Text.OneLine.eachLine (by decide) (by decide)
    exact printsLines_blank.cons <| hhead.cons <| (hinside.andThen hmember).inside.cons <|
      printsLines_blank.cons <| hinit.inside.cons <| hend.cons printsLines_nil

/-- The declarations of messages. -/
theorem printsLines_declarations (ht : t.OneLine) (hs : s.OneLine) : ∀ {ms : List MessageType},
    (∀ n ∈ MessageType.subtrees ms, n.OneLine) →
      ∀ {set set' : ExtensionSet} {plans : List MessagePlan},
        makeAll t shorten ms set = (set', .ok plans) →
          (declarations s plans).PrintsLines IsBlockLine
  | [], _, set, set', plans, h => by
    cases h
    rw [declarations]
    exact printsLines_nothing
  | m :: ms, hms, set, set', plans, h => by
    obtain ⟨hm, hrest⟩ := MessageType.forall_mem_subtrees_cons.1 hms
    obtain ⟨plan, rest, set₁, hplan, hplans, rfl⟩ := makeAll_cons_eq_ok h
    rw [declarations]
    exact (printsLines_declaration ht hs hm hplan).andThen
      (printsLines_declarations ht hs hrest hplans)

end

mutual

/-- The runtime support of a message and of all nested in it. -/
theorem printsLines_runtimeSupport (ht : t.OneLine) (hs : s.OneLine) (hasPackage : Bool) :
    ∀ {m : MessageType},
    (∀ n ∈ m.subtree, n.OneLine) →
      ∀ {set set' : ExtensionSet} {plan : MessagePlan}, make t shorten m set = (set', .ok plan) →
        (plan.runtimeSupport s hasPackage).PrintsLines IsBlockLine
  | ⟨name, fullName, fields, messages, enums, extensions⟩, hm, set, set', plan, h => by
    obtain ⟨hown, hnested⟩ := MessageType.forall_mem_subtree.1 hm
    obtain ⟨swiftName, enumPlans, plans, set₁, hname, henums, -, hmessages, rfl⟩ := make_eq_ok h
    have hline := ht.typeNameOf hown.fullName hname
    have hofEnums := EnumPlan.printsLines_runtimeSupports hs
      (EnumPlan.oneLine_of_mapM ht hown.enums henums)
    have hofMessages := printsLines_runtimeSupports ht hs hasPackage hnested hmessages
    rw [runtimeSupport]
    refine printsLines_blank.cons <| PrintsLines.cons ?_ <| hofEnums.cons <|
      hofMessages.cons printsLines_nil
    refine printsLines_onValue fun text htext => printsLines_on fun fieldPlans _ =>
      printsLines_text ?_
    have htextLine := hline.of_asText htext
    exact MessageRuntimeBlock.eachLine_text hs.access hs.runtimePrefix htextLine
      (oneLine_protoName hasPackage htextLine hown.name.display)
      (List.forall_mem_map.2 fun plan _ => plan.oneLine_nameEntry)

/-- The runtime support of messages and of all nested in them. -/
theorem printsLines_runtimeSupports (ht : t.OneLine) (hs : s.OneLine) (hasPackage : Bool) :
    ∀ {ms : List MessageType},
    (∀ n ∈ MessageType.subtrees ms, n.OneLine) →
      ∀ {set set' : ExtensionSet} {plans : List MessagePlan},
        makeAll t shorten ms set = (set', .ok plans) →
          (runtimeSupports s hasPackage plans).PrintsLines IsBlockLine
  | [], _, set, set', plans, h => by
    cases h
    rw [runtimeSupports]
    exact printsLines_nothing
  | m :: ms, hms, set, set', plans, h => by
    obtain ⟨hm, hrest⟩ := MessageType.forall_mem_subtrees_cons.1 hms
    obtain ⟨plan, rest, set₁, hplan, hplans, rfl⟩ := makeAll_cons_eq_ok h
    rw [runtimeSupports]
    exact (printsLines_runtimeSupport ht hs hasPackage hm hplan).andThen
      (printsLines_runtimeSupports ht hs hasPackage hrest hplans)

end

end MessagePlan

/-! ## Extensions -/

/-- The plan of an extension whose names are texts of one line. -/
structure ExtensionPlan.OneLine (plan : ExtensionPlan) : Prop where
  accessor : plan.accessor.OneLine
  fieldType : Text.OneLine plan.fieldType
  extendee : plan.extendee.IsLine

/-- An extension whose names are one line has a plan of such names. -/
theorem ExtensionPlan.oneLine_of_make (ht : t.OneLine) {x : ExtensionField} (hx : x.OneLine)
    {plan : ExtensionPlan} (h : make t x = .ok plan) : plan.OneLine := by
  obtain ⟨valueType, hvalue, h⟩ := Result.bind_eq_ok_iff.1 h
  obtain ⟨fullName, hname, h⟩ := Result.bind_eq_ok_iff.1 h
  obtain ⟨property, hproperty, h⟩ := Result.bind_eq_ok_iff.1 h
  have htype := ht.storedType hx.typeName hvalue
  have hfull := hx.fullName.of_asText hname
  have hline := ht.extensionName hfull hproperty
  split at h
  · cases h
  next c rest hchars =>
    obtain ⟨scope, hscope, h⟩ := Result.bind_eq_ok_iff.1 h
    obtain ⟨scopeText, hscopeText, h⟩ := Result.bind_eq_ok_iff.1 h
    obtain ⟨declaration, hdeclaration, h⟩ := Result.bind_eq_ok_iff.1 h
    obtain ⟨text, htext, h⟩ := Result.bind_eq_ok_iff.1 h
    obtain ⟨fieldType, hfieldType, h⟩ := Result.bind_eq_ok_iff.1 h
    cases h
    rw [Text.OneLine, hchars, List.mem_cons, not_or] at hline
    have hsuffix : '\n' ∉ Text.upperChar c ++ rest := by
      rw [List.mem_append, not_or]
      exact ⟨fun hmem => hline.1 (Text.eq_of_mem_upperChar Swift.lineFeed_beforeLetters hmem),
        hline.2⟩
    have hscopeLine := (ht.extensionScope hscope).of_asText hscopeText
    have hfieldLine := ht.extensionFieldType hx hfieldType
    refine ⟨⟨?_, ?_, ?_, ?_, ?_⟩, hfieldLine, ht.typeName hx.extendee false⟩
    · rw [accessor, Text.OneLine, hchars, List.mem_cons, not_or]
      exact hline
    · rwa [accessor, Text.OneLine, String.toList_ofList]
    · exact ((htype.declaration hdeclaration).of_asText htext).dropTrailing '?'
    · rw [accessor, Text.oneLine_append, Text.oneLine_append]
      exact ⟨⟨hscopeLine, by decide⟩, hfull.cutLast.2⟩
    · rw [accessor]
      dsimp only
      split
      · decide
      · exact htype.defaultValue

namespace ExtensionSet

variable (ht : t.OneLine) (hs : s.OneLine) {set : ExtensionSet}
  (hset : ∀ x ∈ set.entries, x.OneLine)
include ht hset

/-- So have all extensions of a set. -/
theorem oneLine_of_plans {plans : List ExtensionPlan} (h : set.plans t = .ok plans) :
    ∀ plan ∈ plans, plan.OneLine := by
  intro plan hplan
  obtain ⟨x, hx, hmade⟩ := Result.exists_of_mem_mapM h hplan
  exact ExtensionPlan.oneLine_of_make ht (hset x hx) hmade

include hs

/-- The accessors of extensions have lines of blocks. -/
theorem printsLines_properties : (set.properties t s).PrintsLines IsBlockLine := by
  refine printsLines_onValue fun plans hplans => ?_
  have hlines := oneLine_of_plans ht hset hplans
  have htexts : ∀ x ∈ plans, x.extendee.IsText := fun x hx =>
    (hlines x hx).extendee.imp fun _ h => h.1
  refine printsLines_blank.cons (PrintsLines.cons ?_ printsLines_nil)
  refine printsLines_onValue fun gs hgroups => printsLines_text ?_
  rw [groups_eq htexts] at hgroups
  cases hgroups
  refine AccessorBlock.eachLine_text hs.access (List.forall_mem_map.2 fun name hname => ⟨?_, ?_⟩)
  · obtain ⟨x, hx, rfl⟩ := List.mem_map.1 (List.mem_eraseDups.1 hname)
    exact (hlines x hx).extendee.display
  · exact List.forall_mem_map.2 fun x hx => (hlines x (List.mem_of_mem_filter hx)).accessor

/-- So has the table of extensions. -/
theorem printsLines_registry : (set.registry t s).PrintsLines IsBlockLine := by
  refine printsLines_blank.cons (PrintsLines.cons ?_ printsLines_nil)
  refine printsLines_onValue fun plans hplans => printsLines_text ?_
  refine RegistryBlock.eachLine_text hs.access hs.runtimePrefix ht.registryName ?_
  exact List.forall_mem_map.2 fun x hx => (oneLine_of_plans ht hset hplans x hx).accessor.object

/-- So have the extension objects. -/
theorem printsLines_objects : (set.objects t s).PrintsLines IsBlockLine := by
  refine printsLines_blank.cons (PrintsLines.cons ?_ printsLines_nil)
  refine printsLines_onValue fun objects hobjects => printsLines_text ?_
  obtain ⟨plans, hplans, hobjects⟩ := Result.bind_eq_ok_iff.1 hobjects
  have hlines := oneLine_of_plans ht hset hplans
  have htexts : ∀ x ∈ plans, x.extendee.IsText := fun x hx =>
    (hlines x hx).extendee.imp fun _ h => h.1
  rw [ExtensionPlan.objectTexts_eq htexts] at hobjects
  cases hobjects
  refine ObjectBlock.eachLine_text hs.access hs.runtimePrefix (List.forall_mem_map.2 fun x hx => ?_)
  have hx := hlines x hx
  exact ⟨hx.accessor.object, hx.fieldType, hx.extendee.display, Text.oneLine_toString x.number⟩

end ExtensionSet

/-! ## Files -/

namespace FilePlan

variable {plan : FilePlan}

/-- A line that a file may have outside of its blocks and imports: one as blocks have them, or one
that the name of the schema file brings in. -/
def IsOuterLine (plan : FilePlan) (line : String) : Prop :=
  IsBlockLine line ∨ line ∈ (Text.parts '\n' plan.file.name).tail

/-- A text that is put after a mark has no other lines than that of the mark and its own. -/
theorem eachLine_of_mark {mark : String} (hline : Text.OneLine mark) (hmark : IsMarked mark)
    (name : String) :
    EachLine (fun line => IsBlockLine line ∨ line ∈ (Text.parts '\n' name).tail)
      (mark ++ name) := by
  obtain ⟨first, rest, hname, hparts⟩ := Text.splitAt_append_of_not_mem hline name.toList
  have hfirst : '\n' ∉ mark.toList ++ first :=
    Text.not_mem_of_mem_splitAt (hparts ▸ List.mem_cons_self)
  have hblock : IsBlockLine (String.ofList (mark.toList ++ first)) := by
    refine ⟨by simpa [Text.OneLine] using hfirst, .inr (.inr ?_)⟩
    rw [String.ofList_append, String.ofList_toList, isMarked_append]
    exact .inl hmark
  rw [EachLine, Text.parts, String.toList_append, hparts, List.map_cons, List.forall_mem_cons,
    Text.parts, hname, List.map_cons, List.tail_cons]
  exact ⟨.inl hblock, fun line hmem => .inr hmem⟩

/-- So has the name of a file without its folder, with a dot at its end. -/
theorem eachLine_extensionMark (plan : FilePlan) : EachLine plan.IsOuterLine
    ("// MARK: - Extension support defined in " ++
      (FileName.split plan.file.name).withoutFolder ++ ".") := by
  have hname : (Text.parts '\n' (FileName.split plan.file.name).withoutFolder).tail ⊆
      (Text.parts '\n' plan.file.name).tail := by
    have hjoined := (FileName.split_spec plan.file.name).joined
    rw [Text.parts, Text.parts, ← List.map_tail, ← List.map_tail, ← hjoined, ← String.toList_append]
    exact List.map_subset _ (Text.tail_splitAt_append '\n' _ _).subset
  have hline : Text.OneLine "// MARK: - Extension support defined in " := by decide +kernel
  have hmark := eachLine_of_mark hline (by decide +kernel)
    ((FileName.split plan.file.name).withoutFolder ++ ".")
  rw [← String.append_assoc] at hmark
  refine hmark.mono fun line hline => hline.elim .inl fun htail => ?_
  have hdot : ((FileName.split plan.file.name).withoutFolder ++ ".").toList =
      (FileName.split plan.file.name).withoutFolder.toList ++ ['.'] := String.toList_append
  rw [Text.parts, hdot, ← List.map_tail, List.mem_map] at htail
  obtain ⟨part, hpart, rfl⟩ := htail
  rcases Text.mem_tail_splitAt_concat (by decide) hpart with hold | hend
  · refine .inr (hname ?_)
    rw [Text.parts, ← List.map_tail]
    exact List.mem_map_of_mem hold
  · have hfeed := Text.not_mem_of_mem_splitAt (List.mem_of_mem_tail hpart)
    refine .inl ⟨by simpa [Text.OneLine] using hfeed, .inr (.inr ?_)⟩
    rw [IsMarked, String.toList_ofList, List.any_eq_true]
    exact ⟨'.', hend, by decide⟩

section
variable (hfile : plan.file.OneLine) (ht : plan.names.OneLine)
include hfile ht

/-- The declarations of a file. -/
theorem printsLines_printDeclarations {shorten : Bool} {d : Declarations}
    (h : plan.declarations shorten = .ok d) :
    (plan.printDeclarations d).PrintsLines IsBlockLine := by
  obtain ⟨henums, set, -, hmessages⟩ := declarations_eq_ok h
  have hs : plan.surroundings.OneLine := ht.surroundings plan.settings
  have hofEnums := EnumPlan.printsLines_declarations hs
    (EnumPlan.oneLine_of_mapM ht hfile.enums henums)
  exact hofEnums.andThen (MessagePlan.printsLines_declarations ht hs hfile.messages hmessages)

/-- The code for the extensions of a file. -/
theorem printsLines_printExtensions {shorten : Bool} {d : Declarations}
    (h : plan.declarations shorten = .ok d) :
    (plan.printExtensions d.extensions).PrintsLines plan.IsOuterLine := by
  have hs : plan.surroundings.OneLine := ht.surroundings plan.settings
  have hset : ∀ x ∈ d.extensions.entries, x.OneLine := by
    rw [entries_of_declarations h]
    intro x hx
    rcases List.mem_append.1 (firstOccurrences_subset _ _ hx) with hx | hx
    · exact hfile.extensions x hx
    · obtain ⟨m, hm, hx⟩ := List.mem_flatMap.1 hx
      exact (hfile.messages m hm).extensions x hx
  unfold printExtensions
  split
  · exact printsLines_nothing
  · have hmark : (lines ["", "// MARK: - Extension support defined in " ++
        (FileName.split plan.file.name).withoutFolder ++ "."]).PrintsLines plan.IsOuterLine :=
      printsLines_lines <| List.forall_mem_cons.2 ⟨Text.OneLine.eachLine (by decide)
        (.inl isBlockLine_empty), List.forall_mem_singleton.2 plan.eachLine_extensionMark⟩
    have houter (line : String) (hline : IsBlockLine line) : plan.IsOuterLine line := .inl hline
    have hproperties := (ExtensionSet.printsLines_properties ht hs hset).mono houter
    have hregistry := (ExtensionSet.printsLines_registry ht hs hset).mono houter
    have hobjects := (ExtensionSet.printsLines_objects ht hs hset).mono houter
    exact hmark.cons <| hproperties.cons <| hregistry.cons <| hobjects.cons printsLines_nil

/-- The runtime support of a file. -/
theorem printsLines_printRuntimeSupport {shorten : Bool} {d : Declarations}
    (h : plan.declarations shorten = .ok d) :
    (plan.printRuntimeSupport d).PrintsLines IsBlockLine := by
  obtain ⟨henums, set, -, hmessages⟩ := declarations_eq_ok h
  have hs : plan.surroundings.OneLine := ht.surroundings plan.settings
  have hpackage := hfile.package.display
  have hblank : EachLine IsBlockLine "" := Text.OneLine.eachLine (by decide) isBlockLine_empty
  have hmark : (lines ["", "// MARK: - Code below here is support for the " ++
      plan.names.runtimeModule ++ " runtime."]).PrintsLines IsBlockLine := by
    refine printsLines_lines (List.forall_mem_cons.2 ⟨hblank, List.forall_mem_singleton.2 ?_⟩)
    have hline : IsBlockLine ("// MARK: - Code below here is support for the " ++
        plan.names.runtimeModule ++ " runtime.") := by
      simp +decide [IsBlockLine, ht.runtimeModule]
    exact hline.1.eachLine hline
  have hbinding : (if plan.hasPackage && !d.messages.isEmpty then
      lines ["", "fileprivate let _protobuf_package = \"" ++ plan.file.package.display ++ "\""]
      else nothing).PrintsLines IsBlockLine := by
    split
    · refine printsLines_lines (List.forall_mem_cons.2 ⟨hblank, List.forall_mem_singleton.2 ?_⟩)
      have hline : IsBlockLine ("fileprivate let _protobuf_package = \"" ++
          plan.file.package.display ++ "\"") := by
        simp +decide [IsBlockLine, hpackage]
      exact hline.1.eachLine hline
    · exact printsLines_nothing
  have hofEnums := EnumPlan.printsLines_runtimeSupports hs
    (EnumPlan.oneLine_of_mapM ht hfile.enums henums)
  have hofMessages :=
    MessagePlan.printsLines_runtimeSupports ht hs plan.hasPackage hfile.messages hmessages
  exact hmark.cons <| hbinding.cons <| hofEnums.cons <| hofMessages.cons printsLines_nil

/-- What is printed after the imports of a file whose names are texts of one line. -/
theorem printsLines_fullBody (hasImports : Bool) :
    (plan.fullBody hasImports).PrintsLines plan.IsOuterLine := by
  have houter (line : String) (hline : IsBlockLine line) : plan.IsOuterLine line := .inl hline
  have hnone : (lines [noDeclarations]).PrintsLines plan.IsOuterLine :=
    printsLines_lines <| List.forall_mem_singleton.2 <|
      Text.OneLine.eachLine (by decide +kernel) (.inl (by decide +kernel))
  have hversion : plan.versionCheck.PrintsLines IsBlockLine :=
    printsLines_text <| VersionBlock.eachLine_text ht.runtimePrefix ht.runtimeModule <|
      Text.oneLine_toString compatibilityVersion
  unfold fullBody
  split
  · refine PrintsLines.cons ?_ (hnone.cons printsLines_nil)
    split
    · exact printsLines_blank
    · exact printsLines_nothing
  · have hcode : (onValue (plan.declarations false) fun d => all [plan.printDeclarations d,
        plan.printExtensions d.extensions, plan.printRuntimeSupport d]).PrintsLines
        plan.IsOuterLine := printsLines_onValue fun d hd => by
      have hdeclarations := (printsLines_printDeclarations hfile ht hd).mono houter
      have hsupport := (printsLines_printRuntimeSupport hfile ht hd).mono houter
      exact hdeclarations.cons <| (printsLines_printExtensions hfile ht hd).cons <|
        hsupport.cons printsLines_nil
    exact printsLines_blank.cons <| (hversion.mono houter).cons <| hcode.cons printsLines_nil

end

end FilePlan

end SchemaToSwift
