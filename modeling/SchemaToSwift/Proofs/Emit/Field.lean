import SchemaToSwift.Emit.Message
import SchemaToSwift.Proofs.Emit.Ends
import SchemaToSwift.Proofs.Names.Typed
import SchemaToSwift.Proofs.Schema.Refusal

/-!
# Plans of typed fields

A typed field has a stored property unless it is refused. The invariant along the fields of a
message is that the plans so far are those of the fields so far, with the same properties and proto
names, so that a plan finds a common property exactly where the field does.
-/

namespace SchemaToSwift

/-! ## Stored types -/

/-- A stored type of a textual name is declared with a text. -/
theorem StoredType.declaration_ok {t : StoredType} (h : t.name.IsText) :
    ∃ d, t.declaration = .ok d ∧ d.IsText := by
  unfold StoredType.declaration
  cases t.holding with
  | value => exact ⟨t.name, rfl, h⟩
  | optional | array =>
    rw [h.shown]
    exact ⟨_, rfl, Json.isText_str _⟩

/-- The stored type of a field has a textual name. -/
theorem NameTable.TableOf.storedType_ok {file : Schema} {t : NameTable} (h : t.TableOf file)
    (type : FieldType) (label : Label) (typeName : String) (shorten : Bool) :
    ∃ stored, t.storedType type label typeName shorten = .ok stored ∧ stored.name.IsText := by
  unfold NameTable.storedType
  cases type.scalar? with
  | some scalar => exact ⟨_, rfl, Json.isText_str _⟩
  | none =>
    have htext := h.isText_typeName typeName shorten
    dsimp only
    split
    · exact ⟨_, rfl, htext⟩
    · rw [htext.shown]
      exact ⟨_, rfl, htext⟩

/-! ## One field -/

namespace FieldPlan

variable {file : Schema} {t : NameTable} {before : List Field} {plans : List FieldPlan}

/-- A plan of a field. -/
structure PlanOf (f : Field) (plan : FieldPlan) : Prop where
  property : plan.property = f.property
  protoName : plan.protoName = f.name.display
  declaration : plan.declaration.IsText

/-- The first plan with a property is that of the first field with it. -/
theorem find?_property (h : List.Forall₂ PlanOf before plans) (property : String) :
    (plans.find? (·.property == property)).map (·.protoName) =
      (before.find? (·.property == property)).map (·.name.display) := by
  induction h with
  | nil => rfl
  | cons hp _ ih =>
    rw [List.find?_cons, List.find?_cons, hp.property]
    split
    · simp [hp.protoName]
    · exact ih

/-- A plan is made of a typed field that names its type, unless an earlier plan has the property. -/
theorem make_of_named (shorten : Bool) {message : Json} {f : Field} (hf : f.Typed)
    (hnamed : f.lacksTypeName = false) :
    make t shorten message plans f =
      match plans.find? (·.property == f.property) with
      | some first => .error (.reported
          (.sameProperty t.file.name first.protoName f.name.display message f.property))
      | none => do
        let type ← Failure.escape (t.fieldType f shorten)
        let declaration ← Failure.escape type.declaration
        return { property := f.property, declaration, initialValue := type.initialValue,
                 number := f.number, protoName := f.name.display } := by
  rw [Field.lacksTypeName] at hnamed
  rw [make, if_neg (by simpa using hnamed), hf.name.asText]
  rfl

/-- A field with an error has that error instead of a plan. -/
theorem make_of_refused (shorten : Bool) {message : Json} {f : Field} {e : GenerationError}
    (h : List.Forall₂ PlanOf before plans) (hf : f.Typed)
    (he : Field.refusal? t.file.name message before f = some e) :
    make t shorten message plans f = .error (.reported e) := by
  rw [Field.refusal?] at he
  cases hlacks : f.lacksTypeName with
  | true =>
    rw [if_pos hlacks, Option.some.injEq] at he
    rw [Field.lacksTypeName] at hlacks
    rw [make, if_pos hlacks, ← he]
    rfl
  | false =>
    rw [if_neg (by simp [hlacks])] at he
    obtain ⟨g, hg, rfl⟩ := Option.map_eq_some_iff.1 he
    have hfind := find?_property h f.property
    rw [hg, Option.map_some] at hfind
    obtain ⟨first, hfirst, hname⟩ := Option.map_eq_some_iff.1 hfind
    rw [make_of_named shorten hf hlacks, hfirst, ← hname]

/-- A field without an error has a plan. -/
theorem make_of_sound (ht : t.TableOf file) (shorten : Bool) {message : Json} {f : Field}
    (h : List.Forall₂ PlanOf before plans) (hf : f.Typed)
    (hnone : Field.refusal? t.file.name message before f = none) :
    ∃ plan, make t shorten message plans f = .ok plan ∧ PlanOf f plan := by
  rw [Field.refusal?] at hnone
  cases hlacks : f.lacksTypeName with
  | true => simp [hlacks] at hnone
  | false =>
    rw [if_neg (by simp [hlacks]), Option.map_eq_none_iff] at hnone
    have hfind := find?_property h f.property
    rw [hnone, Option.map_none, Option.map_eq_none_iff] at hfind
    obtain ⟨stored, hstored, hname⟩ := ht.storedType_ok f.type f.label f.typeName shorten
    obtain ⟨declaration, hdeclaration, htext⟩ := StoredType.declaration_ok hname
    have hmake : make t shorten message plans f =
        .ok ⟨f.property, declaration, stored.initialValue, f.number, f.name.display⟩ := by
      rw [make_of_named shorten hf hlacks, hfind, NameTable.fieldType, hstored]
      simp only [Failure.escape_ok, Result.bind_ok, hdeclaration, Result.pure_eq]
    -- only the fields of the plan are to be opened, not the property's name
    exact ⟨_, hmake, ⟨by dsimp only, by dsimp only, htext⟩⟩

/-! ## The fields of a message -/

/-- Fields of which one is refused have its error instead of plans. -/
theorem makeAll_of_refused (ht : t.TableOf file) (shorten : Bool) {message : Json}
    {fs : List Field} {e : GenerationError} (h : List.Forall₂ PlanOf before plans)
    (hfs : ∀ f ∈ fs, f.Typed)
    (he : Field.firstRefusal? t.file.name message before fs = some e) :
    makeAll t shorten message plans fs = .error (.reported e) := by
  induction fs generalizing before plans with
  | nil => cases he
  | cons f rest ih =>
    have hf := hfs f (.head _)
    rw [Field.firstRefusal?, Option.or_eq_some_iff] at he
    rcases he with he | ⟨hnone, he⟩
    · rw [makeAll, make_of_refused shorten h hf he]
      rfl
    · obtain ⟨plan, hplan, hof⟩ := make_of_sound ht shorten h hf hnone
      rw [makeAll, hplan, Result.bind_ok]
      exact ih (List.rel_append h (.cons hof .nil)) (fun g hg => hfs g (.tail _ hg)) he

/-- Fields of which none is refused have plans. -/
theorem makeAll_of_sound (ht : t.TableOf file) (shorten : Bool) {message : Json}
    {fs : List Field} (h : List.Forall₂ PlanOf before plans) (hfs : ∀ f ∈ fs, f.Typed)
    (hnone : Field.firstRefusal? t.file.name message before fs = none) :
    ∃ all, makeAll t shorten message plans fs = .ok all ∧
      List.Forall₂ PlanOf (before ++ fs) all := by
  induction fs generalizing before plans with
  | nil => exact ⟨plans, rfl, by simpa using h⟩
  | cons f rest ih =>
    rw [Field.firstRefusal?, Option.or_eq_none_iff] at hnone
    obtain ⟨plan, hplan, hof⟩ := make_of_sound ht shorten h (hfs f (.head _)) hnone.1
    obtain ⟨all, hall, hforall⟩ :=
      ih (List.rel_append h (.cons hof .nil)) (fun g hg => hfs g (.tail _ hg)) hnone.2
    refine ⟨all, ?_, by rwa [List.append_cons]⟩
    rw [makeAll, hplan, Result.bind_ok, hall]

/-- Plans of fields can be printed. -/
theorem propertyTexts_ok (h : List.Forall₂ PlanOf before plans) :
    ∃ texts, plans.mapM (·.propertyText) = .ok texts := by
  refine Result.mapM_of_ok fun plan hplan => ?_
  obtain ⟨f, -, hof⟩ : ∃ f ∈ before, PlanOf f plan := by
    induction h with
    | nil => cases hplan
    | cons hp _ ih =>
      rcases List.mem_cons.1 hplan with rfl | hplan
      · exact ⟨_, .head _, hp⟩
      · obtain ⟨f, hf, hof⟩ := ih hplan
        exact ⟨f, .tail _ hf, hof⟩
  rw [propertyText, hof.declaration.shown]
  exact ⟨_, rfl⟩

end FieldPlan

end SchemaToSwift
