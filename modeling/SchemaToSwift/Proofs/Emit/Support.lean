import SchemaToSwift.Proofs.Emit.Declaration
import SchemaToSwift.Proofs.Names.Typed

/-!
# Runtime support in generated code

The runtime support of a message is an extension of the message and one of each of its enums. What
is printed to the end as the runtime support of messages is that of all messages of their trees,
each before those nested in it (`MessagePlan.supported_of_yields`), and it extends the types under
their full Swift names, with the names of their fields and values (`MessageType.SupportedBy`).
-/

namespace SchemaToSwift

/-- The runtime support of a message and of its enums. -/
structure MessageSupport where
  own : MessageRuntimeBlock
  enums : List EnumRuntimeBlock

namespace MessageSupport

/-- The steps that print extensions of enums. -/
def enumSteps (blocks : List EnumRuntimeBlock) : List Printer.Step :=
  blocks.flatMap fun b => Printer.blockSteps b.text

/-- The steps that print the runtime support of a message and of its enums. -/
def steps (m : MessageSupport) : List Printer.Step :=
  Printer.blockSteps m.own.text ++ enumSteps m.enums

/-- The names of the types that are extended. -/
def names (m : MessageSupport) : List String := m.own.name :: m.enums.map (·.name)

end MessageSupport

/-! ## The lines of the blocks -/

/-- The lines of the extension of a message. -/
def MessageRuntimeBlock.lines (b : MessageRuntimeBlock) : List String :=
  ["extension " ++ b.name ++ ": " ++ b.runtimePrefix ++ "Message, " ++ b.runtimePrefix ++
      "_MessageImplementationBase, " ++ b.runtimePrefix ++ "_ProtoNameProviding \x7b",
    "  " ++ b.access ++ "static let protoMessageName: String = " ++ b.protoName] ++
  nameMapLines b.access b.runtimePrefix b.fields ++ ["\x7d"]

/-- The entries for the cases of the block. -/
def EnumRuntimeBlock.entries (b : EnumRuntimeBlock) : List NameMapEntry :=
  b.cases.map fun c => ⟨c.number, "same", c.protoName⟩

/-- The lines of the extension of an enum. -/
def EnumRuntimeBlock.lines (b : EnumRuntimeBlock) : List String :=
  ["extension " ++ b.name ++ ": " ++ b.runtimePrefix ++ "_ProtoNameProviding \x7b"] ++
  nameMapLines b.access b.runtimePrefix b.entries ++ ["\x7d"]

/-! ## What is extended -/

/-- The block extends the enum under its Swift name, and names the first values of the numbers. -/
structure EnumType.SupportedBy (t : NameTable) (shorten : Bool) (e : EnumType)
    (block : EnumRuntimeBlock) : Prop where
  name : ∃ swiftName, t.typeNameOf e.fullName shorten = .ok swiftName ∧
    swiftName.shown = .ok block.name
  cases : List.Forall₂ (fun v c => v.name = .str c.protoName) (EnumType.firstValues e.values)
    block.cases

/-- The support extends the message and its enums under their Swift names, gives the message a
proto name and names its fields. -/
structure MessageType.SupportedBy (t : NameTable) (shorten hasPackage : Bool) (m : MessageType)
    (support : MessageSupport) : Prop where
  name : t.typeNameOf m.fullName shorten = .ok (.str support.own.name)
  protoName :
    support.own.protoName = MessagePlan.protoName hasPackage support.own.name m.name.display
  fields : List.Forall₂ (fun f e => f.name = .str e.protoName) m.fields support.own.fields
  enums : List.Forall₂ (EnumType.SupportedBy t shorten) m.enums support.enums

variable {t : NameTable} {shorten hasPackage : Bool} {s : Surroundings}

/-- The runtime support of an enum is for its Swift name. -/
theorem EnumType.SupportedBy.name_eq {e : EnumType} {block : EnumRuntimeBlock}
    (h : e.SupportedBy t shorten block) :
    block.name = (t.typeName e.fullName.display shorten).display := by
  obtain ⟨swiftName, hname, hshown⟩ := h.name
  rw [← NameTable.typeNameOf_eq_ok hname, Json.shown_eq_ok hshown]

/-- So it is for all enums of a list. -/
theorem EnumType.names_of_supportedBy {enums : List EnumType} {blocks : List EnumRuntimeBlock}
    (h : List.Forall₂ (EnumType.SupportedBy t shorten) enums blocks) :
    blocks.map (·.name) =
      enums.map fun e => (t.typeName e.fullName.display shorten).display := by
  induction h with
  | nil => rfl
  | cons hsupported _ ih => rw [List.map_cons, List.map_cons, hsupported.name_eq, ih]

/-- That of a message is for the Swift name of the message. -/
theorem MessageType.SupportedBy.name_eq {m : MessageType} {support : MessageSupport}
    (h : m.SupportedBy t shorten hasPackage support) :
    t.typeName m.fullName.display shorten = .str support.own.name :=
  (NameTable.typeNameOf_eq_ok h.name).symm

/-- The support of messages extends the types that they declare, in order. -/
theorem MessageType.names_of_supportedBy {ms : List MessageType} {supports : List MessageSupport}
    (h : List.Forall₂ (MessageType.SupportedBy t shorten hasPackage) ms supports) :
    supports.flatMap (·.names) = (ms.flatMap (·.declaredNames)).map fun n =>
      (t.typeName n.display shorten).display := by
  induction h with
  | nil => rfl
  | cons hsupported _ ih =>
    rw [List.flatMap_cons, List.flatMap_cons, List.map_append, ih, MessageSupport.names,
      EnumType.names_of_supportedBy hsupported.enums, declaredNames, List.map_cons, List.map_map,
      hsupported.name_eq]
    rfl

/-- The cases of a plan have the names of the first values of the numbers. -/
theorem EnumPlan.protoNames_of_make {e : EnumType} {plan : EnumPlan}
    (h : make t shorten e = .ok plan) :
    List.Forall₂ (fun v c => v.name = .str c.protoName) (EnumType.firstValues e.values)
      plan.caseTexts := by
  obtain ⟨swiftName, -, h⟩ := Result.bind_eq_ok_iff.1 h
  obtain ⟨cases, hcases, h⟩ := Result.bind_eq_ok_iff.1 h
  cases h
  rw [caseTexts, List.forall₂_map_right_iff]
  refine (Result.mapM_ok_iff.1 hcases).imp fun v c hcase => ?_
  obtain ⟨enumName, -, hcase⟩ := Result.bind_eq_ok_iff.1 hcase
  obtain ⟨valueName, hname, hcase⟩ := Result.bind_eq_ok_iff.1 hcase
  rw [Result.pure_eq, Except.ok.injEq] at hcase
  rw [Json.asText_eq_ok hname, ← hcase]

/-- The plans of fields have the names of the fields. -/
theorem FieldPlan.protoNames_of_makeAll {message : Json} {fs : List Field} {plans : List FieldPlan}
    (h : makeAll t shorten message [] fs = .ok plans) :
    List.Forall₂ (fun f e => f.name = .str e.protoName) fs (plans.map (·.nameEntry)) := by
  obtain ⟨own, hplans, hown⟩ := forall₂_of_makeAll
    (R := fun f plan => f.name = .str plan.protoName)
    (fun hplan => by
      obtain ⟨name, stored, declaration, hname, -, -, -, rfl⟩ := make_eq_ok hplan
      exact hname) h
  rw [hplans, List.nil_append, List.forall₂_map_right_iff]
  exact hown

/-- What is printed as the runtime support of enums extends them. -/
theorem EnumPlan.supported_of_yields {enums : List EnumType} {plans : List EnumPlan}
    {p q : Printer} (hmake : enums.mapM (make t shorten) = .ok plans)
    (h : (Emission.all (plans.map (·.runtimeSupport s))).Yields p q) :
    ∃ blocks, Printer.Printed p (MessageSupport.enumSteps blocks) q ∧
      List.Forall₂ (EnumType.SupportedBy t shorten) enums blocks := by
  rw [Result.mapM_ok_iff] at hmake
  induction hmake generalizing p with
  | nil =>
    rw [List.map_nil, Emission.yields_all_nil] at h
    subst h
    exact ⟨[], .nil p, .nil⟩
  | @cons e plan _ _ hplan _ ih =>
    rw [List.map_cons] at h
    obtain ⟨r, hfirst, h⟩ := Emission.yields_all_cons.1 h
    obtain ⟨name, hname, hprinted⟩ := Emission.printed_block hfirst
    obtain ⟨blocks, hprintedAll, hsupported⟩ := ih h
    exact ⟨plan.runtimeBlock s name :: blocks, hprinted.append hprintedAll,
      .cons ⟨⟨plan.swiftName, swiftName_of_make hplan, hname⟩, protoNames_of_make hplan⟩
        hsupported⟩

namespace MessagePlan

mutual

/-- What is printed as the runtime support of a message extends it and all messages nested in it. -/
theorem supported_of_yields : ∀ {m : MessageType} {set set' : ExtensionSet} {plan : MessagePlan},
    make t shorten m set = (set', .ok plan) → ∀ {p q : Printer},
      (plan.runtimeSupport s hasPackage).Yields p q →
        ∃ supports : List MessageSupport,
          Printer.Printed p (supports.flatMap (·.steps)) q ∧
            List.Forall₂ (MessageType.SupportedBy t shorten hasPackage) m.subtree supports
  | ⟨name, fullName, fields, messages, enums, extensions⟩, set, set', plan, hmake, p, q, h => by
    obtain ⟨swiftName, enumPlans, plans, set₁, hname, henums, -, hmessages, rfl⟩ :=
      make_eq_ok hmake
    rw [runtimeSupport] at h
    obtain ⟨p₁, hblank, h⟩ := Emission.yields_all_cons.1 h
    obtain ⟨p₂, hown, h⟩ := Emission.yields_all_cons.1 h
    obtain ⟨p₃, hofEnums, h⟩ := Emission.yields_all_cons.1 h
    obtain ⟨p₄, hofMessages, hend⟩ := Emission.yields_all_cons.1 h
    rw [Emission.yields_lines] at hblank
    rw [Emission.yields_all_nil] at hend
    subst hblank hend
    obtain ⟨text, htext, hown⟩ := Emission.yields_onValue.1 hown
    obtain ⟨fieldPlans, hfields, hown⟩ := Emission.yields_on.1 hown
    rw [Emission.yields_lines] at hown
    subst hown
    rw [Json.asText_eq_ok htext] at hname
    obtain ⟨blocks, hprintedEnums, hsupportedEnums⟩ := EnumPlan.supported_of_yields henums hofEnums
    obtain ⟨rest, hprintedRest, hsupportedRest⟩ := supportedAll_of_yields hmessages hofMessages
    have hblock := Printer.Printed.block_lines p
      (runtimeBlock s hasPackage text name.display fieldPlans).text
    refine ⟨⟨runtimeBlock s hasPackage text name.display fieldPlans, blocks⟩ :: rest,
      (hblock.append hprintedEnums).append hprintedRest, ?_⟩
    rw [MessageType.subtree]
    exact .cons ⟨hname, by simp only [runtimeBlock], FieldPlan.protoNames_of_makeAll hfields,
      hsupportedEnums⟩ hsupportedRest

/-- What is printed as the runtime support of messages extends them and all messages nested in
them. -/
theorem supportedAll_of_yields : ∀ {ms : List MessageType} {set set' : ExtensionSet}
    {plans : List MessagePlan}, makeAll t shorten ms set = (set', .ok plans) →
      ∀ {p q : Printer}, (runtimeSupports s hasPackage plans).Yields p q →
        ∃ supports : List MessageSupport,
          Printer.Printed p (supports.flatMap (·.steps)) q ∧
            List.Forall₂ (MessageType.SupportedBy t shorten hasPackage) (MessageType.subtrees ms)
              supports
  | [], set, set', plans, hmake, p, q, h => by
    cases hmake
    rw [runtimeSupports, Emission.yields_nothing] at h
    subst h
    exact ⟨[], .nil p, .nil⟩
  | m :: ms, set, set', plans, hmake, p, q, h => by
    obtain ⟨plan, rest, set₁, hplan, hrest, rfl⟩ := makeAll_cons_eq_ok hmake
    rw [runtimeSupports] at h
    obtain ⟨r, hfirst, h⟩ := Emission.yields_andThen.1 h
    obtain ⟨xs, hprinted, hsupported⟩ := supported_of_yields hplan hfirst
    obtain ⟨ys, hprintedAll, hsupportedAll⟩ := supportedAll_of_yields hrest h
    have hsteps := hprinted.append hprintedAll
    rw [← List.flatMap_append] at hsteps
    rw [MessageType.subtrees]
    exact ⟨xs ++ ys, hsteps, List.rel_append hsupported hsupportedAll⟩

end

end MessagePlan

end SchemaToSwift
