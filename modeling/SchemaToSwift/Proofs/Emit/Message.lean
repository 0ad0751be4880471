import SchemaToSwift.Proofs.Emit.Ends
import SchemaToSwift.Proofs.Emit.Field

/-!
# Emission of typed messages

The declarations of messages are printed in the order of `MessageType.subtrees`, so printing them
ends with the error of the first of these messages that has one, and where none has one, their
runtime support is printed to the end (`MessagePlan.makeAll_prints`). Planning the messages also
gathers the extensions declared in them, at any depth.
-/

namespace SchemaToSwift

/-! ## Enums -/

namespace EnumType

/-- The values that have a case are values of the enum. -/
theorem firstValues_subset (values : List EnumValue) : firstValues values ⊆ values := by
  have hfold (vs acc : List EnumValue) : vs.foldl
      (fun acc v => if acc.any (·.number == v.number) then acc else acc ++ [v]) acc ⊆
        acc ++ vs := by
    induction vs generalizing acc with
    | nil => simp
    | cons v rest ih =>
      rw [List.foldl_cons]
      split
      · exact List.Subset.trans (ih acc) (by simp)
      · simpa using ih (acc ++ [v])
  exact hfold values []

end EnumType

namespace EnumPlan

variable {file : Schema} {t : NameTable}

/-- A typed enum has a plan, with a textual name. -/
theorem make_ok (ht : t.TableOf file) (shorten : Bool) {e : EnumType} (he : e.Typed) :
    ∃ plan, make t shorten e = .ok plan ∧ plan.swiftName.IsText := by
  obtain ⟨swiftName, hname, htext⟩ := ht.typeNameOf_ok he.fullName shorten
  obtain ⟨cases, hcases⟩ :
      ∃ cs, (EnumType.firstValues e.values).mapM (casePlan e.name) = .ok cs := by
    refine Result.mapM_of_ok fun v hv => ?_
    rw [casePlan, he.name.asText, Result.bind_ok,
      (he.values v (EnumType.firstValues_subset _ hv)).asText]
    exact ⟨_, rfl⟩
  refine ⟨⟨swiftName, cases⟩, ?_, htext⟩
  rw [make, hname, Result.bind_ok, hcases]
  rfl

/-- Typed enums have plans, with textual names. -/
theorem mapM_make_ok (ht : t.TableOf file) (shorten : Bool) {enums : List EnumType}
    (h : ∀ e ∈ enums, e.Typed) :
    ∃ plans, enums.mapM (make t shorten) = .ok plans ∧ ∀ plan ∈ plans, plan.swiftName.IsText :=
  Result.mapM_of_ok_and fun e he => make_ok ht shorten (h e he)

theorem ends_declaration {plan : EnumPlan} (h : plan.swiftName.IsText) (s : Surroundings) :
    (plan.declaration s).Ends (.ok ()) :=
  (Emission.ends_lines _).all_cons <|
    (Emission.ends_onValue (h.asText _) (Emission.ends_lines _)).all_cons Emission.ends_all_nil

theorem ends_runtimeSupport {plan : EnumPlan} (h : plan.swiftName.IsText) (s : Surroundings) :
    (plan.runtimeSupport s).Ends (.ok ()) :=
  (Emission.ends_lines _).all_cons <|
    (Emission.ends_onValue h.shown (Emission.ends_lines _)).all_cons Emission.ends_all_nil

/-- The declarations of enums with textual names are printed to the end. -/
theorem ends_declarations {plans : List EnumPlan} (h : ∀ plan ∈ plans, plan.swiftName.IsText)
    (s : Surroundings) : (Emission.all (plans.map (·.declaration s))).Ends (.ok ()) := by
  refine Emission.ends_all fun a ha => ?_
  obtain ⟨plan, hplan, rfl⟩ := List.mem_map.1 ha
  exact ends_declaration (h plan hplan) s

/-- The runtime support of enums with textual names is printed to the end. -/
theorem ends_runtimeSupports {plans : List EnumPlan} (h : ∀ plan ∈ plans, plan.swiftName.IsText)
    (s : Surroundings) : (Emission.all (plans.map (·.runtimeSupport s))).Ends (.ok ()) := by
  refine Emission.ends_all fun a ha => ?_
  obtain ⟨plan, hplan, rfl⟩ := List.mem_map.1 ha
  exact ends_runtimeSupport (h plan hplan) s

end EnumPlan

/-! ## Sets of extensions -/

namespace ExtensionSet

/-- A set of typed extensions with the full names of given ones. -/
structure Holds (set : ExtensionSet) (xs : List ExtensionField) : Prop where
  typed : ∀ x ∈ set.entries, x.Typed
  fullNames (name : Json) : (∃ x ∈ set.entries, x.fullName = name) ↔ ∃ x ∈ xs, x.fullName = name

theorem holds_empty : empty.Holds [] := ⟨by simp [empty], by simp [empty]⟩

/-- A set with one more extension has its full name too. -/
theorem Holds.insert {set : ExtensionSet} {xs : List ExtensionField} {x : ExtensionField}
    (h : set.Holds xs) (hx : x.Typed) : (set.insert x).Holds (xs ++ [x]) := by
  have hsplit (name : Json) : (∃ y ∈ xs ++ [x], y.fullName = name) ↔
      (∃ y ∈ set.entries, y.fullName = name) ∨ x.fullName = name := by
    simp only [h.fullNames, List.mem_append, List.mem_singleton, or_and_right, exists_or,
      exists_eq_left]
  unfold ExtensionSet.insert
  split
  · next hany =>
    obtain ⟨y, hy, hsame⟩ := List.any_eq_true.1 hany
    have heq : y.fullName = x.fullName := by
      obtain ⟨a, ha⟩ := (h.typed y hy).fullName
      obtain ⟨b, hb⟩ := hx.fullName
      rw [ha, hb, Json.same_str, beq_iff_eq] at hsame
      rw [ha, hb, hsame]
    refine ⟨h.typed, fun name => ?_⟩
    rw [hsplit]
    exact (or_iff_left_of_imp fun hname => ⟨y, hy, heq.trans hname⟩).symm
  · refine ⟨fun y hy => ?_, fun name => ?_⟩
    · rcases List.mem_append.1 hy with hy | hy
      · exact h.typed y hy
      · rwa [List.mem_singleton.1 hy]
    · rw [hsplit]
      simp only [List.mem_append, List.mem_singleton, or_and_right, exists_or, exists_eq_left]

/-- Typed extensions can be added. -/
theorem Holds.add {ys : List ExtensionField} (hys : ∀ y ∈ ys, y.Typed) :
    ∀ {set : ExtensionSet} {xs : List ExtensionField}, set.Holds xs →
      ∃ set', set.add ys = (set', .ok ()) ∧ set'.Holds (xs ++ ys) := by
  induction ys with
  | nil => exact fun {set xs} h => ⟨set, by rw [ExtensionSet.add], by simpa using h⟩
  | cons y rest ih =>
    intro set xs h
    have hy := hys y (.head _)
    obtain ⟨set', hadd, hholds⟩ := ih (fun z hz => hys z (.tail _ hz)) (h.insert hy)
    refine ⟨set', ?_, by rwa [List.append_cons]⟩
    rw [ExtensionSet.add, if_pos hy.fullName.isKey, hadd]

end ExtensionSet

/-! ## Messages -/

namespace MessagePlan

variable {file : Schema} {t : NameTable}

/-- The first error of messages of a file. -/
def firstRefusal? (file : String) (ms : List MessageType) : Option GenerationError :=
  ms.findSome? (·.refusal? file)

/-- The emissions of messages: the declarations end with the first error of the messages, and the
runtime support is printed to the end if there is none. -/
structure Prints (file : String) (ms : List MessageType) (declaration : Surroundings → Emission)
    (runtimeSupport : Surroundings → Bool → Emission) : Prop where
  declaration (s : Surroundings) :
    (declaration s).Ends (Emission.verdict (firstRefusal? file ms))
  runtimeSupport (s : Surroundings) (hasPackage : Bool) :
    firstRefusal? file ms = none → (runtimeSupport s hasPackage).Ends (.ok ())

/-- A message that is refused prints nothing. -/
theorem prints_refused {file : String} {m : MessageType} {ms : List MessageType}
    {e : GenerationError} (he : m.refusal? file = some e) (plan : MessagePlan)
    (hfields : plan.fields = .error (.reported e)) :
    Prints file (m :: ms) (fun s => plan.declaration s) fun s hasPackage =>
      plan.runtimeSupport s hasPackage := by
  have hfirst : firstRefusal? file (m :: ms) = some e := by
    rw [firstRefusal?, List.findSome?_cons, he]
  obtain ⟨swiftName, name, fields, enums, messages⟩ := plan
  refine ⟨fun s => ?_, fun s hasPackage hnone => ?_⟩
  · rw [hfirst, MessagePlan.declaration]
    exact Emission.ends_on_error _ hfields
  · rw [hfirst] at hnone
    cases hnone

/-- A message that is not refused prints what is nested in it. -/
theorem prints_sound {file : String} {m : MessageType} {ms : List MessageType}
    (hm : m.refusal? file = none) {fs : List Field} {plan : MessagePlan} {fields : List FieldPlan}
    (hname : plan.swiftName.IsText) (hfields : plan.fields = .ok fields)
    (hplans : List.Forall₂ FieldPlan.PlanOf fs fields)
    (henums : ∀ e ∈ plan.enums, e.swiftName.IsText)
    (hnested : Prints file ms (fun s => declarations s plan.messages) fun s hasPackage =>
      runtimeSupports s hasPackage plan.messages) :
    Prints file (m :: ms) (fun s => plan.declaration s) fun s hasPackage =>
      plan.runtimeSupport s hasPackage := by
  have hfirst : firstRefusal? file (m :: ms) = firstRefusal? file ms := by
    rw [firstRefusal?, List.findSome?_cons, hm]
    rfl
  obtain ⟨swiftName, name, fields', enums, messages⟩ := plan
  obtain ⟨texts, htexts⟩ := FieldPlan.propertyTexts_ok hplans
  refine ⟨fun s => ?_, fun s hasPackage hnone => ?_⟩
  · rw [hfirst, MessagePlan.declaration]
    refine Emission.ends_on hfields ?_
    have hhead : (Emission.onValue (swiftName.asText .noOperation) fun swiftName =>
        .onValue (fields.mapM (·.propertyText)) fun properties =>
          .lines [Text.dropTrailing '\n' (head s swiftName properties).text]).Ends (.ok ()) :=
      Emission.ends_onValue (hname.asText _) <|
        Emission.ends_onValue htexts (Emission.ends_lines _)
    refine (Emission.ends_lines _).all_cons (hhead.all_cons ?_)
    refine Emission.Ends.andThen_ok ?_ ?_
    · exact ((EnumPlan.ends_declarations henums s).andThen (hnested.declaration s)).inside
    · exact (Emission.ends_lines _).all_cons <|
        (Emission.ends_lines _).inside.all_cons <|
          (Emission.ends_lines _).all_cons Emission.ends_all_nil
  · rw [hfirst] at hnone
    rw [MessagePlan.runtimeSupport]
    have hown : (Emission.onValue (swiftName.asText .noOperation) fun swiftName =>
        .on fields' fun fields => .lines [Text.dropTrailing '\n'
          (runtimeBlock s hasPackage swiftName name fields).text]).Ends (.ok ()) :=
      Emission.ends_onValue (hname.asText _) <|
        Emission.ends_on hfields (Emission.ends_lines _)
    exact (Emission.ends_lines _).all_cons <| hown.all_cons <|
      (EnumPlan.ends_runtimeSupports henums s).all_cons <|
        (hnested.runtimeSupport s hasPackage hnone).all_cons Emission.ends_all_nil

/-- Of messages in two parts the first error is that of the first part, if it has one. -/
theorem firstRefusal?_append {file : String} (ms ns : List MessageType) :
    firstRefusal? file (ms ++ ns) = (firstRefusal? file ms).or (firstRefusal? file ns) :=
  List.findSome?_append

mutual

/-- A typed message has a plan, which prints the message and all messages nested in it. -/
theorem make_prints (ht : t.TableOf file) (shorten : Bool) : ∀ {m : MessageType},
    (∀ n ∈ m.subtree, n.Typed) → ∀ {set : ExtensionSet} {xs : List ExtensionField},
      set.Holds xs → ∃ set' plan, make t shorten m set = (set', .ok plan) ∧
        set'.Holds (xs ++ m.subtree.flatMap (·.extensions)) ∧
        Prints t.file.name m.subtree (fun s => plan.declaration s) fun s hasPackage =>
          plan.runtimeSupport s hasPackage
  | ⟨name, fullName, fields, messages, enums, extensions⟩, h, set, xs, hset => by
    obtain ⟨hm, hnested⟩ := MessageType.forall_mem_subtree.1 h
    obtain ⟨swiftName, hname, htext⟩ := ht.typeNameOf_ok hm.fullName shorten
    obtain ⟨set₁, hadd, hset₁⟩ := hset.add hm.extensions
    obtain ⟨enumPlans, henums, htexts⟩ := EnumPlan.mapM_make_ok ht shorten hm.enums
    obtain ⟨set₂, plans, hmessages, hset₂, hprints⟩ := makeAll_prints ht shorten hnested hset₁
    have hmake : make t shorten ⟨name, fullName, fields, messages, enums, extensions⟩ set =
        (set₂, .ok ⟨swiftName, name.display, FieldPlan.makeAll t shorten fullName [] fields,
          enumPlans, plans⟩) := by
      simp only [make, hname, hadd, henums, hmessages]
    refine ⟨set₂, _, hmake, by simpa [MessageType.subtree] using hset₂, ?_⟩
    rw [MessageType.subtree]
    cases hrefusal : MessageType.refusal? t.file.name
        ⟨name, fullName, fields, messages, enums, extensions⟩ with
    | some e =>
      exact prints_refused hrefusal _
        (FieldPlan.makeAll_of_refused ht shorten .nil hm.fields hrefusal)
    | none =>
      obtain ⟨all, hall, hplans⟩ := FieldPlan.makeAll_of_sound ht shorten .nil hm.fields hrefusal
      exact prints_sound hrefusal htext hall hplans htexts hprints

/-- Typed messages have plans, which print them and all messages nested in them. -/
theorem makeAll_prints (ht : t.TableOf file) (shorten : Bool) : ∀ {ms : List MessageType},
    (∀ n ∈ MessageType.subtrees ms, n.Typed) →
      ∀ {set : ExtensionSet} {xs : List ExtensionField}, set.Holds xs →
        ∃ set' plans, makeAll t shorten ms set = (set', .ok plans) ∧
          set'.Holds (xs ++ (MessageType.subtrees ms).flatMap (·.extensions)) ∧
          Prints t.file.name (MessageType.subtrees ms) (fun s => declarations s plans)
            fun s hasPackage => runtimeSupports s hasPackage plans
  | [], _, set, xs, hset => by
    refine ⟨set, [], by rw [makeAll], by simpa [MessageType.subtrees] using hset, ?_, ?_⟩
    · intro s
      rw [declarations]
      exact Emission.ends_nothing
    · intro s hasPackage _
      rw [runtimeSupports]
      exact Emission.ends_nothing
  | m :: ms, h, set, xs, hset => by
    obtain ⟨hm, hms⟩ := MessageType.forall_mem_subtrees_cons.1 h
    obtain ⟨set₁, plan, hplan, hset₁, hprints⟩ := make_prints ht shorten hm hset
    obtain ⟨set₂, plans, hplans, hset₂, hprintsAll⟩ := makeAll_prints ht shorten hms hset₁
    refine ⟨set₂, plan :: plans, by simp only [makeAll, hplan, hplans],
      by simpa [MessageType.subtrees] using hset₂, ?_, ?_⟩
    · intro s
      rw [declarations, MessageType.subtrees, firstRefusal?_append]
      exact (hprints.declaration s).andThen_verdict (hprintsAll.declaration s)
    · intro s hasPackage hnone
      rw [MessageType.subtrees, firstRefusal?_append, Option.or_eq_none_iff] at hnone
      rw [runtimeSupports]
      exact (hprints.runtimeSupport s hasPackage hnone.1).andThen
        (hprintsAll.runtimeSupport s hasPackage hnone.2)

end

end MessagePlan

end SchemaToSwift
