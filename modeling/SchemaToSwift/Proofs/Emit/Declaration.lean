import SchemaToSwift.Emit.Message
import SchemaToSwift.Proofs.Emit.Printed

/-!
# Declarations of types in generated code

A `TypeDeclaration` is the declaration of a type as it is printed: an enum, or the head of a message
with the declarations nested in it. What is printed for a message to the end is such a declaration
(`MessagePlan.printed_of_yields`), with the name that the message has in its scope, a property for
each field, and inside it the declarations of its enums and then those of its messages
(`MessageType.DeclaredAs`). This holds of every message that is printed at all, whatever the values
in it are.
-/

namespace SchemaToSwift

/-- The declaration of a type, with the declarations nested in it. -/
inductive TypeDeclaration
  | enum (block : EnumBlock)
  | message (head : MessageBlock) (nested : List TypeDeclaration)

namespace TypeDeclaration

mutual

/-- The steps that print a declaration. -/
def steps : TypeDeclaration → List Printer.Step
  | .enum block => Printer.blockSteps block.text
  | .message head nested =>
    Printer.blockSteps head.text ++ [.block (stepsAll nested), .lines [],
      .block [.lines [head.access ++ "init() \x7b\x7d"]], .lines ["\x7d"]]

/-- The steps that print the declarations of a list. -/
def stepsAll : List TypeDeclaration → List Printer.Step
  | [] => []
  | d :: ds => steps d ++ stepsAll ds

end

mutual

/-- The paths of a declaration in a scope and of all declarations nested in it: the names in their
heads, from the outermost one on. -/
def paths (scope : List String) : TypeDeclaration → List (List String)
  | .enum block => [scope ++ [block.name]]
  | .message head nested => (scope ++ [head.name]) :: pathsAll (scope ++ [head.name]) nested

/-- The paths of the declarations of a list and of all nested in them. -/
def pathsAll (scope : List String) : List TypeDeclaration → List (List String)
  | [] => []
  | d :: ds => paths scope d ++ pathsAll scope ds

end

mutual

/-- The heads of the messages in a declaration, each before those nested in it. -/
def heads : TypeDeclaration → List MessageBlock
  | .enum _ => []
  | .message head nested => head :: headsAll nested

/-- The heads of the messages in the declarations of a list. -/
def headsAll : List TypeDeclaration → List MessageBlock
  | [] => []
  | d :: ds => heads d ++ headsAll ds

end

theorem stepsAll_append (xs ys : List TypeDeclaration) :
    stepsAll (xs ++ ys) = stepsAll xs ++ stepsAll ys := by
  induction xs with
  | nil => rfl
  | cons d ds ih => rw [List.cons_append, stepsAll, stepsAll, ih, List.append_assoc]

theorem pathsAll_append (scope : List String) (xs ys : List TypeDeclaration) :
    pathsAll scope (xs ++ ys) = pathsAll scope xs ++ pathsAll scope ys := by
  induction xs with
  | nil => rfl
  | cons d ds ih => rw [List.cons_append, pathsAll, pathsAll, ih, List.append_assoc]

theorem headsAll_append (xs ys : List TypeDeclaration) :
    headsAll (xs ++ ys) = headsAll xs ++ headsAll ys := by
  induction xs with
  | nil => rfl
  | cons d ds ih => rw [List.cons_append, headsAll, headsAll, ih, List.append_assoc]

theorem pathsAll_enums (scope : List String) (enums : List EnumBlock) :
    pathsAll scope (enums.map .enum) = enums.map fun b => scope ++ [b.name] := by
  induction enums with
  | nil => rfl
  | cons b rest ih =>
    rw [List.map_cons, List.map_cons, pathsAll, paths, ih, List.singleton_append]

theorem headsAll_enums (enums : List EnumBlock) : headsAll (enums.map .enum) = [] := by
  induction enums with
  | nil => rfl
  | cons b rest ih => rw [List.map_cons, headsAll, heads, ih, List.append_nil]

end TypeDeclaration

/-! ## What a declaration declares -/

/-- The property stores values of the field's type. -/
def Field.StoredAs (t : NameTable) (shorten : Bool) (f : Field) (property : PropertyText) : Prop :=
  ∃ stored declaration, t.fieldType f shorten = .ok stored ∧ stored.declaration = .ok declaration ∧
    declaration.shown = .ok property.declaration

/-- The block declares the enum, under its name in its scope. -/
def EnumType.DeclaredAs (t : NameTable) (shorten : Bool) (e : EnumType) (block : EnumBlock) :
    Prop :=
  ∃ swiftName, t.typeNameOf e.fullName shorten = .ok (.str swiftName) ∧
    block.name = Text.lastComponent swiftName

/-- The declaration declares the message, under its name in its scope, with a property for each
field and with the declarations of its enums and then of its messages nested in it. -/
inductive MessageType.DeclaredAs (t : NameTable) (shorten : Bool) :
    MessageType → TypeDeclaration → Prop
  | message {name fullName : Json} {fields : List Field} {messages : List MessageType}
      {enums : List EnumType} {extensions : List ExtensionField} {swiftName : String}
      {head : MessageBlock} {ofEnums : List EnumBlock} {ofMessages : List TypeDeclaration}
      (hname : t.typeNameOf fullName shorten = .ok (.str swiftName))
      (hhead : head.name = Text.lastComponent swiftName)
      (hfields : List.Forall₂ (Field.StoredAs t shorten) fields head.properties)
      (henums : List.Forall₂ (EnumType.DeclaredAs t shorten) enums ofEnums)
      (hmessages : List.Forall₂ (DeclaredAs t shorten) messages ofMessages) :
      DeclaredAs t shorten ⟨name, fullName, fields, messages, enums, extensions⟩
        (.message head (ofEnums.map .enum ++ ofMessages))

/-- The type of a field that refers to a type of the given name. -/
def Field.reference (f : Field) (name : String) : String :=
  if f.label = .repeated then "[" ++ name ++ "]"
  else if f.type = .enum then name
  else name ++ "?"

theorem Json.asText_eq_ok {v : Json} {fault : Fault} {s : String} (h : v.asText fault = .ok s) :
    v = .str s := by
  cases v <;> cases h
  rfl

theorem Json.shown_eq_ok {v : Json} {s : String} (h : v.shown = .ok s) : v.display = s := by
  unfold Json.shown at h
  split at h
  · split at h
    · cases h
    · exact Except.ok.inj h
  · exact Except.ok.inj h

theorem NameTable.typeNameOf_eq_ok {t : NameTable} {fullName v : Json} {shorten : Bool}
    (h : t.typeNameOf fullName shorten = .ok v) : v = t.typeName fullName.display shorten := by
  obtain ⟨s, hs, h⟩ := Result.bind_eq_ok_iff.1 h
  rw [Json.asText_eq_ok hs]
  exact (Except.ok.inj h).symm

variable {t : NameTable} {shorten : Bool}

/-! ## Fields -/

/-- No declared type is a scalar type. -/
theorem FieldType.scalar?_eq_none {type : FieldType} (h : type.isNamed = true) :
    type.scalar? = none := by
  cases type with
  | group | message | enum => rfl
  | _ => cases h

/-- How the type of a field that refers to a declared type is stored. -/
theorem Field.storedType_named {f : Field} (hnamed : f.type.isNamed = true) {name : String}
    (hname : t.typeName f.typeName shorten = .str name) {stored : StoredType}
    (h : t.fieldType f shorten = .ok stored) :
    stored.name = .str name ∧ stored.holding =
      if f.label = .repeated then .array else if f.type = .enum then .value else .optional := by
  rw [NameTable.fieldType, NameTable.storedType, FieldType.scalar?_eq_none hnamed] at h
  dsimp only at h
  rw [hname] at h
  split at h
  · next henum =>
    cases h
    exact ⟨rfl, by rw [if_pos henum]⟩
  · next henum =>
    cases h
    exact ⟨rfl, by rw [if_neg henum]⟩

/-- A property refers to the type of its field by the name of that type. -/
theorem Field.StoredAs.declaration_eq {f : Field} {property : PropertyText}
    (h : f.StoredAs t shorten property) (hnamed : f.type.isNamed = true) {name : String}
    (hname : t.typeName f.typeName shorten = .str name) :
    property.declaration = f.reference name := by
  obtain ⟨stored, declaration, hstored, hdeclaration, hshown⟩ := h
  obtain ⟨htype, hholding⟩ := storedType_named hnamed hname hstored
  have hreference : stored.declaration = .ok (.str (f.reference name)) := by
    rw [StoredType.declaration, hholding, htype, reference]
    by_cases hrepeated : f.label = .repeated
    · rw [if_pos hrepeated, if_pos hrepeated]
      rfl
    · by_cases henum : f.type = .enum
      · rw [if_neg hrepeated, if_neg hrepeated, if_pos henum, if_pos henum]
        rfl
      · rw [if_neg hrepeated, if_neg hrepeated, if_neg henum, if_neg henum]
        rfl
  rw [hreference] at hdeclaration
  cases hdeclaration
  exact (Except.ok.inj hshown).symm

namespace FieldPlan

/-- The plan stores values of the field's type. -/
def Stores (t : NameTable) (shorten : Bool) (f : Field) (plan : FieldPlan) : Prop :=
  ∃ stored, t.fieldType f shorten = .ok stored ∧ stored.declaration = .ok plan.declaration

/-- What a plan of a field holds. No earlier plan has its property. -/
theorem make_eq_ok {message : Json} {before : List FieldPlan} {f : Field} {plan : FieldPlan}
    (h : make t shorten message before f = .ok plan) :
    ∃ name stored declaration, f.name = .str name ∧
      (∀ earlier ∈ before, earlier.property ≠ propertyName name) ∧
      t.fieldType f shorten = .ok stored ∧ stored.declaration = .ok declaration ∧
      plan = ⟨propertyName name, declaration, stored.initialValue, f.number, name⟩ := by
  unfold make at h
  split at h
  · rw [Result.throw_eq, Result.bind_error] at h
    cases h
  obtain ⟨name, hname, h⟩ := Result.bind_eq_ok_iff.1 h
  dsimp only at h
  split at h
  · rw [Result.throw_eq] at h
    cases h
  next hnone =>
    obtain ⟨stored, hstored, h⟩ := Result.bind_eq_ok_iff.1 h
    obtain ⟨declaration, hdeclaration, h⟩ := Result.bind_eq_ok_iff.1 h
    rw [Result.pure_eq, Except.ok.injEq] at h
    refine ⟨name, stored, declaration, Json.asText_eq_ok (Failure.escape_eq_ok hname),
      fun earlier hearlier => ?_, Failure.escape_eq_ok hstored, Failure.escape_eq_ok hdeclaration,
      h.symm⟩
    simpa using List.find?_eq_none.1 hnone earlier hearlier

/-- After the plans for earlier fields come those of the fields. -/
theorem forall₂_of_makeAll {R : Field → FieldPlan → Prop} {message : Json}
    (hR : ∀ {before : List FieldPlan} {f : Field} {plan : FieldPlan},
      make t shorten message before f = .ok plan → R f plan) {fs : List Field} :
    ∀ {before plans : List FieldPlan}, makeAll t shorten message before fs = .ok plans →
      ∃ own, plans = before ++ own ∧ List.Forall₂ R fs own := by
  induction fs with
  | nil =>
    intro before plans h
    cases h
    exact ⟨[], (List.append_nil _).symm, .nil⟩
  | cons f rest ih =>
    intro before plans h
    rw [makeAll] at h
    obtain ⟨plan, hplan, h⟩ := Result.bind_eq_ok_iff.1 h
    obtain ⟨own, rfl, hown⟩ := ih h
    exact ⟨plan :: own, by simp, .cons (hR hplan) hown⟩

/-- The plan of a field stores the field. -/
theorem stores_of_make {message : Json} {before : List FieldPlan} {f : Field} {plan : FieldPlan}
    (h : make t shorten message before f = .ok plan) : Stores t shorten f plan := by
  obtain ⟨name, stored, declaration, -, -, hstored, hdeclaration, rfl⟩ := make_eq_ok h
  exact ⟨stored, hstored, hdeclaration⟩

/-- So do the plans of fields, one for each in the same order. -/
theorem stores_of_makeAll {message : Json} {fs : List Field} {before plans : List FieldPlan}
    (h : makeAll t shorten message before fs = .ok plans) :
    ∃ own, plans = before ++ own ∧ List.Forall₂ (Stores t shorten) fs own :=
  forall₂_of_makeAll stores_of_make h

/-- Plans are printed as properties of the fields' types. -/
theorem storedAs_of_stores {fs : List Field} {plans : List FieldPlan}
    (h : List.Forall₂ (Stores t shorten) fs plans) : ∀ {properties : List PropertyText},
      plans.mapM (·.propertyText) = .ok properties →
        List.Forall₂ (Field.StoredAs t shorten) fs properties := by
  induction h with
  | nil =>
    intro properties hproperties
    cases hproperties
    exact .nil
  | cons hplan _ ih =>
    intro properties hproperties
    rw [Result.mapM_ok_iff] at hproperties
    cases hproperties with
    | cons hproperty hrest =>
      obtain ⟨stored, hstored, hdeclaration⟩ := hplan
      rw [propertyText] at hproperty
      obtain ⟨text, htext, hproperty⟩ := Result.bind_eq_ok_iff.1 hproperty
      cases hproperty
      exact .cons ⟨stored, _, hstored, hdeclaration, htext⟩ (ih (Result.mapM_ok_iff.2 hrest))

end FieldPlan

/-! ## Enums -/

namespace EnumPlan

/-- An enum is planned under its Swift name. -/
theorem swiftName_of_make {e : EnumType} {plan : EnumPlan} (h : make t shorten e = .ok plan) :
    t.typeNameOf e.fullName shorten = .ok plan.swiftName := by
  rw [make] at h
  obtain ⟨swiftName, hname, h⟩ := Result.bind_eq_ok_iff.1 h
  obtain ⟨cases, -, h⟩ := Result.bind_eq_ok_iff.1 h
  cases h
  exact hname

/-- The block is the one that is printed for the plan. -/
def PrintedAs (s : Surroundings) (plan : EnumPlan) (block : EnumBlock) : Prop :=
  ∃ name, plan.swiftName = .str name ∧ block = plan.declarationBlock s name

/-- What is printed for plans of enums are their blocks. -/
theorem printedAll_of_yields {s : Surroundings} {plans : List EnumPlan} {p q : Printer}
    (h : (Emission.all (plans.map (·.declaration s))).Yields p q) :
    ∃ blocks, Printer.Printed p (TypeDeclaration.stepsAll (blocks.map .enum)) q ∧
      List.Forall₂ (PrintedAs s) plans blocks := by
  induction plans generalizing p with
  | nil =>
    rw [List.map_nil, Emission.yields_all_nil] at h
    subst h
    exact ⟨[], .nil p, .nil⟩
  | cons plan rest ih =>
    rw [List.map_cons] at h
    obtain ⟨r, hfirst, h⟩ := Emission.yields_all_cons.1 h
    obtain ⟨name, hname, hprinted⟩ := Emission.printed_block hfirst
    obtain ⟨blocks, hprintedAll, hblocks⟩ := ih h
    exact ⟨plan.declarationBlock s name :: blocks, hprinted.append hprintedAll,
      .cons ⟨name, Json.asText_eq_ok hname, rfl⟩ hblocks⟩

/-- The blocks that are printed for plans of enums declare the enums. -/
theorem declaredAll_of_printedAll {s : Surroundings} {enums : List EnumType}
    {plans : List EnumPlan} {blocks : List EnumBlock}
    (hmake : enums.mapM (make t shorten) = .ok plans)
    (h : List.Forall₂ (PrintedAs s) plans blocks) :
    List.Forall₂ (EnumType.DeclaredAs t shorten) enums blocks := by
  rw [Result.mapM_ok_iff] at hmake
  induction hmake generalizing blocks with
  | nil =>
    cases h
    exact .nil
  | cons hplan _ ih =>
    cases h with
    | cons hblock hblocks =>
      obtain ⟨name, hname, rfl⟩ := hblock
      have hswift := swiftName_of_make hplan
      rw [hname] at hswift
      exact .cons ⟨name, hswift, rfl⟩ (ih hblocks)

/-- What is printed for enums declares them. -/
theorem declaredAll_of_yields {s : Surroundings} {enums : List EnumType} {plans : List EnumPlan}
    {p q : Printer} (hmake : enums.mapM (make t shorten) = .ok plans)
    (h : (Emission.all (plans.map (·.declaration s))).Yields p q) :
    ∃ blocks, Printer.Printed p (TypeDeclaration.stepsAll (blocks.map .enum)) q ∧
      List.Forall₂ (EnumType.DeclaredAs t shorten) enums blocks := by
  obtain ⟨blocks, hprinted, hblocks⟩ := printedAll_of_yields h
  exact ⟨blocks, hprinted, declaredAll_of_printedAll hmake hblocks⟩

end EnumPlan

/-! ## Messages -/

namespace MessagePlan

/-- What a plan of a message holds. -/
theorem make_eq_ok {name fullName : Json} {fields : List Field} {messages : List MessageType}
    {enums : List EnumType} {extensions : List ExtensionField} {set set' : ExtensionSet}
    {plan : MessagePlan}
    (h : make t shorten ⟨name, fullName, fields, messages, enums, extensions⟩ set =
      (set', .ok plan)) :
    ∃ swiftName enumPlans plans set₁, t.typeNameOf fullName shorten = .ok swiftName ∧
      enums.mapM (EnumPlan.make t shorten) = .ok enumPlans ∧
      set.add extensions = (set₁, .ok ()) ∧
      makeAll t shorten messages set₁ = (set', .ok plans) ∧
      plan = ⟨swiftName, name.display, FieldPlan.makeAll t shorten fullName [] fields, enumPlans,
        plans⟩ := by
  rw [make] at h
  split at h
  · cases h
  next swiftName hname =>
    split at h
    · cases h
    next set₁ hadd =>
      split at h
      · cases h
      next enumPlans henums =>
        split at h
        · cases h
        next set₂ plans hplans =>
          cases h
          exact ⟨swiftName, enumPlans, plans, set₁, hname, henums, hadd, hplans, rfl⟩

/-- The plans of messages are those of the first one and of the rest. -/
theorem makeAll_cons_eq_ok {m : MessageType} {ms : List MessageType} {set set' : ExtensionSet}
    {plans : List MessagePlan} (h : makeAll t shorten (m :: ms) set = (set', .ok plans)) :
    ∃ plan rest set₁, make t shorten m set = (set₁, .ok plan) ∧
      makeAll t shorten ms set₁ = (set', .ok rest) ∧ plans = plan :: rest := by
  rw [makeAll] at h
  split at h
  · cases h
  next set₁ plan hplan =>
    split at h
    · cases h
    next set₂ rest hrest =>
      cases h
      exact ⟨plan, rest, set₁, hplan, hrest, rfl⟩

/-- There are plans if and only if there are messages. -/
theorem isEmpty_of_makeAll {ms : List MessageType} {set set' : ExtensionSet}
    {plans : List MessagePlan} (h : makeAll t shorten ms set = (set', .ok plans)) :
    plans.isEmpty = ms.isEmpty := by
  cases ms with
  | nil =>
    cases h
    rfl
  | cons m ms =>
    obtain ⟨plan, rest, set₁, -, -, rfl⟩ := makeAll_cons_eq_ok h
    rfl

/-- The declaration is the one that is printed for the plan: its head has the name and the
properties of the plan, and inside it are the declarations of its enums and then of its messages. -/
inductive PrintedAs (s : Surroundings) : MessagePlan → TypeDeclaration → Prop
  | message {swiftName name : String} {fields : List FieldPlan} {enums : List EnumPlan}
      {messages : List MessagePlan} {properties : List PropertyText} {ofEnums : List EnumBlock}
      {ofMessages : List TypeDeclaration}
      (hfields : fields.mapM (·.propertyText) = .ok properties)
      (henums : List.Forall₂ (EnumPlan.PrintedAs s) enums ofEnums)
      (hmessages : List.Forall₂ (PrintedAs s) messages ofMessages) :
      PrintedAs s ⟨.str swiftName, name, .ok fields, enums, messages⟩
        (.message (head s swiftName properties) (ofEnums.map .enum ++ ofMessages))

mutual

/-- What is printed for the plan of a message to the end is its declaration. -/
theorem printed_of_yields {s : Surroundings} : ∀ {plan : MessagePlan} {p q : Printer},
    (plan.declaration s).Yields p q →
      ∃ d : TypeDeclaration, Printer.Printed p d.steps q ∧ plan.PrintedAs s d
  | ⟨swiftName, name, fields, enums, messages⟩, p, q, h => by
    rw [declaration] at h
    obtain ⟨fieldPlans, rfl, h⟩ := Emission.yields_on.1 h
    obtain ⟨p₁, hblank, h⟩ := Emission.yields_all_cons.1 h
    obtain ⟨p₂, hhead, h⟩ := Emission.yields_all_cons.1 h
    obtain ⟨p₃, hnested, h⟩ := Emission.yields_all_cons.1 h
    obtain ⟨p₄, hblank', h⟩ := Emission.yields_all_cons.1 h
    obtain ⟨p₅, hinit, h⟩ := Emission.yields_all_cons.1 h
    obtain ⟨p₆, hbrace, hend⟩ := Emission.yields_all_cons.1 h
    rw [Emission.yields_lines] at hblank hblank' hbrace
    rw [Emission.yields_all_nil] at hend
    subst hblank hblank' hbrace hend
    -- the head
    obtain ⟨text, htext, hhead⟩ := Emission.yields_onValue.1 hhead
    obtain ⟨properties, hproperties, hhead⟩ := Emission.yields_onValue.1 hhead
    rw [Emission.yields_lines] at hhead
    subst hhead
    obtain rfl := Json.asText_eq_ok htext
    -- what is nested in it
    obtain ⟨inner, hinner, rfl⟩ := Emission.yields_inside.1 hnested
    obtain ⟨between, hofEnums, hofMessages⟩ := Emission.yields_andThen.1 hinner
    obtain ⟨blocks, hprintedEnums, hblocks⟩ := EnumPlan.printedAll_of_yields hofEnums
    obtain ⟨ds, hprintedMessages, hds⟩ := printedAll_of_yields hofMessages
    have hprinted := hprintedEnums.append hprintedMessages
    rw [← TypeDeclaration.stepsAll_append] at hprinted
    -- the initialiser
    obtain ⟨inner', hinner', rfl⟩ := Emission.yields_inside.1 hinit
    rw [Emission.yields_lines] at hinner'
    subst hinner'
    refine ⟨.message (head s text properties) (blocks.map .enum ++ ds), ?_,
      .message hproperties hblocks hds⟩
    rw [TypeDeclaration.steps]
    exact (Printer.Printed.block_lines ..).append <|
      hprinted.block.cons <| (Printer.Printed.lines _ _).cons <|
        (Printer.Printed.lines _ _).block.cons (.lines _ _)

/-- What is printed for plans of messages are their declarations. -/
theorem printedAll_of_yields {s : Surroundings} : ∀ {plans : List MessagePlan} {p q : Printer},
    (declarations s plans).Yields p q →
      ∃ ds, Printer.Printed p (TypeDeclaration.stepsAll ds) q ∧
        List.Forall₂ (PrintedAs s) plans ds
  | [], p, q, h => by
    rw [declarations, Emission.yields_nothing] at h
    subst h
    exact ⟨[], .nil p, .nil⟩
  | plan :: rest, p, q, h => by
    rw [declarations] at h
    obtain ⟨r, hfirst, h⟩ := Emission.yields_andThen.1 h
    obtain ⟨d, hprinted, hd⟩ := printed_of_yields hfirst
    obtain ⟨ds, hprintedAll, hds⟩ := printedAll_of_yields h
    exact ⟨d :: ds, hprinted.append hprintedAll, .cons hd hds⟩

end

mutual

/-- The declaration that is printed for the plan of a message declares the message. -/
theorem declared_of_printedAs {s : Surroundings} : ∀ {m : MessageType} {set set' : ExtensionSet}
    {plan : MessagePlan} {d : TypeDeclaration}, make t shorten m set = (set', .ok plan) →
      plan.PrintedAs s d → m.DeclaredAs t shorten d
  | ⟨name, fullName, fields, messages, enums, extensions⟩, set, set', plan, d, hmake, h => by
    obtain ⟨swiftName, enumPlans, plans, set₁, hname, henums, -, hmessages, rfl⟩ :=
      make_eq_ok hmake
    generalize hmakeFields : FieldPlan.makeAll t shorten fullName [] fields = made at h
    cases h with
    | message hproperties hofEnums hofMessages =>
      obtain ⟨own, rfl, hown⟩ := FieldPlan.stores_of_makeAll hmakeFields
      exact .message hname rfl (FieldPlan.storedAs_of_stores hown hproperties)
        (EnumPlan.declaredAll_of_printedAll henums hofEnums)
        (declaredAll_of_printedAll hmessages hofMessages)

theorem declaredAll_of_printedAll {s : Surroundings} : ∀ {ms : List MessageType}
    {set set' : ExtensionSet} {plans : List MessagePlan} {ds : List TypeDeclaration},
      makeAll t shorten ms set = (set', .ok plans) → List.Forall₂ (PrintedAs s) plans ds →
        List.Forall₂ (MessageType.DeclaredAs t shorten) ms ds
  | [], set, set', plans, ds, hmake, h => by
    cases hmake
    cases h
    exact .nil
  | m :: ms, set, set', plans, ds, hmake, h => by
    obtain ⟨plan, rest, set₁, hplan, hrest, rfl⟩ := makeAll_cons_eq_ok hmake
    cases h with
    | cons hd hds =>
      exact .cons (declared_of_printedAs hplan hd) (declaredAll_of_printedAll hrest hds)

end

/-- What is printed for messages declares them. -/
theorem declaredAll_of_yields {s : Surroundings} {ms : List MessageType} {set set' : ExtensionSet}
    {plans : List MessagePlan} (hmake : makeAll t shorten ms set = (set', .ok plans))
    {p q : Printer} (h : (declarations s plans).Yields p q) :
    ∃ ds, Printer.Printed p (TypeDeclaration.stepsAll ds) q ∧
      List.Forall₂ (MessageType.DeclaredAs t shorten) ms ds := by
  obtain ⟨ds, hprinted, hds⟩ := printedAll_of_yields h
  exact ⟨ds, hprinted, declaredAll_of_printedAll hmake hds⟩

end MessagePlan

/-! ## Heads -/

namespace MessageType

/-- The head has a property for each field of the message. -/
def HeadedBy (t : NameTable) (shorten : Bool) (m : MessageType) (head : MessageBlock) : Prop :=
  List.Forall₂ (Field.StoredAs t shorten) m.fields head.properties

mutual

/-- The heads in a declaration are those of the message and of all messages nested in it. -/
theorem DeclaredAs.heads : ∀ {m : MessageType} {d : TypeDeclaration}, m.DeclaredAs t shorten d →
    List.Forall₂ (HeadedBy t shorten) m.subtree d.heads
  | ⟨name, fullName, fields, messages, enums, extensions⟩, d, h => by
    cases h with
    | message _ _ hfields _ hmessages =>
      rw [subtree, TypeDeclaration.heads, TypeDeclaration.headsAll_append,
        TypeDeclaration.headsAll_enums, List.nil_append]
      exact .cons hfields (headsAll_of_declaredAs hmessages)

/-- The heads in the code are those of all messages, each before those nested in it. -/
theorem headsAll_of_declaredAs : ∀ {ms : List MessageType} {ds : List TypeDeclaration},
    List.Forall₂ (DeclaredAs t shorten) ms ds →
      List.Forall₂ (HeadedBy t shorten) (subtrees ms) (TypeDeclaration.headsAll ds)
  | [], ds, h => by
    cases h
    exact .nil
  | m :: ms, ds, h => by
    cases h with
    | cons hm hms =>
      rw [subtrees, TypeDeclaration.headsAll]
      exact List.rel_append hm.heads (headsAll_of_declaredAs hms)

end

end MessageType

end SchemaToSwift
