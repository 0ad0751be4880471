import SchemaToSwift.Proofs.Emit.Declaration
import SchemaToSwift.Proofs.Outcome.Refusal
import SchemaToSwift.Proofs.Swift.Letters

/-!
# Fields that collide

A message is refused for two fields only if they have one property (`Field.Collide`), where the
plans of its fields are made (`FieldPlan.makeAll_sameProperty`) and for the file as a whole
(`Schema.collide_of_rejected`). Camel case leaves everything of a name but underscores and case, so
two identifiers have one property only if they are the same without underscores in lower case
(`lower_withoutUnderscores_eq`).
-/

namespace SchemaToSwift

/-! ## Names without underscores -/

namespace Swift

/-- The name without its underscores. -/
def withoutUnderscores (s : String) : String := String.ofList (s.toList.filter (· ≠ '_'))

/-- Texts of ASCII have one lower-case form exactly if they do letter by letter. -/
theorem lower_ofList_eq_iff {cs ds : List Char} (hcs : ∀ c ∈ cs, Text.isAscii c = true)
    (hds : ∀ d ∈ ds, Text.isAscii d = true) :
    Text.lower (String.ofList cs) = Text.lower (String.ofList ds) ↔
      cs.map Char.toLower = ds.map Char.toLower := by
  rw [Text.lower, Text.lower, String.ofList_inj, String.toList_ofList, String.toList_ofList,
    Text.lowerChars_ascii hcs, Text.lowerChars_ascii hds]

section
variable {s : String} (h : ∀ c ∈ s.toList, Text.isAscii c = true)
include h

/-- A name of the same letters is the name without its underscores, but for the case. -/
theorem lower_ofList_of_letters {cs : List Char} (hcs : cs.map Char.toLower = letters s.toList) :
    Text.lower (String.ofList cs) = Text.lower (withoutUnderscores s) := by
  have hkept : ∀ c ∈ s.toList.filter (· ≠ '_'), Text.isAscii c = true := fun c hc =>
    h c (List.mem_of_mem_filter hc)
  exact (lower_ofList_eq_iff (isAscii_of_map_toLower hkept hcs) hkept).2 hcs

/-- Up to case, upper camel case drops the underscores and does nothing else. -/
theorem lower_upperCamel : Text.lower (upperCamel s) = Text.lower (withoutUnderscores s) :=
  lower_ofList_of_letters h (map_toLower_upperCamelChars h)

/-- So does lower camel case. -/
theorem lower_lowerCamel : Text.lower (lowerCamel s) = Text.lower (withoutUnderscores s) :=
  lower_ofList_of_letters h (map_toLower_lowerCamelChars h)

end

end Swift

/-- Identifiers with one property are the same without underscores in lower case. -/
theorem lower_withoutUnderscores_eq {s u : String} (hs : Swift.isBare s = true)
    (hu : Swift.isBare u = true) (h : propertyName s = propertyName u) :
    Text.lower (Swift.withoutUnderscores s) = Text.lower (Swift.withoutUnderscores u) := by
  have hchars {v : String} (hv : Swift.isBare v = true) :
      ∀ c ∈ v.toList, Swift.isBareChar c = true := fun c hc => Swift.isBareChar_of_mem hv hc
  have hcamel : Swift.lowerCamel s = Swift.lowerCamel u :=
    Swift.quoteReserved_inj_of_chars (Swift.isBareChar_lowerCamel (hchars hs))
      (Swift.isBareChar_lowerCamel (hchars hu)) h
  rw [← Swift.lower_lowerCamel fun c hc => Swift.isAscii_of_isBareChar (hchars hs c hc), hcamel,
    Swift.lower_lowerCamel fun c hc => Swift.isAscii_of_isBareChar (hchars hu c hc)]

/-! ## Fields with one property -/

/-- Two fields of a message have the names, in this order, and one property. -/
def Field.Collide (fs : List Field) (first second : String) : Prop :=
  ∃ before f after, fs = before ++ f :: after ∧ (∃ g ∈ before, g.name = .str first) ∧
    f.name = .str second ∧ propertyName first = propertyName second

/-- Two fields that collide have one property. -/
theorem Field.Collide.same {fs : List Field} {first second : String}
    (h : Collide fs first second) : propertyName first = propertyName second := by
  obtain ⟨before, f, after, -, -, -, hsame⟩ := h
  exact hsame

namespace FieldPlan

variable {t : NameTable} {shorten : Bool} {message : Json}

/-- The plans belong to fields, under their names. -/
def PlansOf (plans : List FieldPlan) (fs : List Field) : Prop :=
  ∀ plan ∈ plans, ∃ g ∈ fs,
    g.name = .str plan.protoName ∧ plan.property = propertyName plan.protoName

theorem plansOf_nil : PlansOf [] [] := List.forall_mem_nil _

/-- One more field has one more plan. -/
theorem PlansOf.concat {plans : List FieldPlan} {fs : List Field} (h : PlansOf plans fs)
    {f : Field} {plan : FieldPlan} (hplan : make t shorten message plans f = .ok plan) :
    PlansOf (plans ++ [plan]) (fs ++ [f]) := by
  obtain ⟨name, stored, declaration, hname, -, -, -, rfl⟩ := make_eq_ok hplan
  intro plan hmem
  rcases List.mem_append.1 hmem with hmem | hmem
  · obtain ⟨g, hg, hplan⟩ := h plan hmem
    exact ⟨g, List.mem_append_left _ hg, hplan⟩
  · obtain rfl := List.mem_singleton.1 hmem
    -- only the fields of the plan are to be opened, not the property's name
    exact ⟨f, by simp, by dsimp only; exact hname, by dsimp only⟩

/-- A plan is refused for its property only if an earlier plan has it. -/
theorem make_sameProperty {plans : List FieldPlan} {f : Field} {file first second property : String}
    {m : Json} (h : make t shorten message plans f =
      .error (.reported (.sameProperty file first second m property))) :
    f.name = .str second ∧
      ∃ plan ∈ plans, plan.protoName = first ∧ plan.property = propertyName second := by
  unfold make at h
  split at h
  · rw [Result.throw_eq, Result.bind_error] at h
    cases h
  rcases Result.bind_eq_error_iff.1 h with h | ⟨name, hname, h⟩
  · exact absurd h (Failure.escape_ne_reported _ _)
  dsimp only at h
  split at h
  · next plan hfind =>
    rw [Result.throw_eq] at h
    cases h
    exact ⟨Json.asText_eq_ok (Failure.escape_eq_ok hname), plan, List.mem_of_find?_eq_some hfind,
      rfl, by simpa using List.find?_some hfind⟩
  · rcases Result.bind_eq_error_iff.1 h with h | ⟨stored, -, h⟩
    · exact absurd h (Failure.escape_ne_reported _ _)
    rcases Result.bind_eq_error_iff.1 h with h | ⟨declaration, -, h⟩
    · exact absurd h (Failure.escape_ne_reported _ _)
    · cases h

/-- The fields of a message are refused for a common property only if two of them collide. -/
theorem makeAll_sameProperty {file first second property : String} {m : Json} {fs : List Field} :
    ∀ {plans : List FieldPlan} {before : List Field}, PlansOf plans before →
      makeAll t shorten message plans fs =
        .error (.reported (.sameProperty file first second m property)) →
      Field.Collide (before ++ fs) first second := by
  induction fs with
  | nil =>
    intro plans before _ h
    cases h
  | cons f rest ih =>
    intro plans before hplans h
    rw [makeAll] at h
    rcases Result.bind_eq_error_iff.1 h with h | ⟨plan, hplan, h⟩
    · obtain ⟨hsecond, plan, hplan, rfl, hproperty⟩ := make_sameProperty h
      obtain ⟨g, hg, hfirst, hown⟩ := hplans plan hplan
      exact ⟨before, f, rest, rfl, ⟨g, hg, hfirst⟩, hsecond, hown.symm.trans hproperty⟩
    · have hrest := ih (hplans.concat hplan) h
      rwa [List.append_assoc, List.singleton_append] at hrest

end FieldPlan

/-- A typed file is rejected for a common property only if two fields of a message collide. -/
theorem Schema.collide_of_rejected {settings : Settings} {file : Schema} (hf : file.Typed)
    {name first second property : String} {m : Json}
    (h : file.generate settings =
      .ok (.rejected file.name (.generation (.sameProperty name first second m property)))) :
    ∃ message ∈ file.allMessages, Field.Collide message.fields first second := by
  obtain ⟨-, hreason⟩ | ⟨-, e, hrefused, hreason⟩ := (outcome_eq_rejected hf h _).1 rfl
  · cases hreason
  obtain rfl := Rejection.generation.inj hreason
  obtain ⟨xs, message, ys, hmessages, -, before, f, after, hfields, -, hfield⟩ := hrefused
  obtain ⟨-, hmissing⟩ | ⟨-, g, hg, hproperty, hsame⟩ := hfield
  · cases hmissing
  have hmem : message ∈ file.allMessages := by
    rw [hmessages]
    simp
  have htyped := (hf.messages message hmem).fields
  cases hsame
  refine ⟨message, hmem, before, f, after, hfields, ⟨g, hg, ?_⟩, ?_, hproperty⟩
  · exact ((htyped g (by simp [hfields, hg])).name).eq_str
  · exact ((htyped f (by simp [hfields])).name).eq_str

/-- Camel case takes the underscores from an ASCII name and leaves everything else of it but the
case. Upper camel case does not begin with a letter in lower case, and lower camel case not with a
capital. So fields of a message, and of a file, are rejected for a common property only if two of
them have it, and if their names are identifiers, only if they are the same but for underscores and
case. -/
theorem camelCase_letters :
    (∀ s : String, (∀ c ∈ s.toList, Text.isAscii c = true) →
      ('_' ∉ (Swift.upperCamel s).toList ∧ '_' ∉ (Swift.lowerCamel s).toList) ∧
      (Text.lower (Swift.upperCamel s) = Text.lower (Swift.withoutUnderscores s) ∧
        Text.lower (Swift.lowerCamel s) = Text.lower (Swift.withoutUnderscores s)) ∧
      (∀ c ∈ (Swift.upperCamel s).toList.head?, c.isLower = false) ∧
      ∀ c ∈ (Swift.lowerCamel s).toList.head?, c.isUpper = false) ∧
    (∀ (t : NameTable) (shorten : Bool) (message : Json) (fs : List Field)
      (file first second property : String) (m : Json),
      FieldPlan.makeAll t shorten message [] fs =
          .error (.reported (.sameProperty file first second m property)) →
        Field.Collide fs first second ∧
          (Swift.isBare first = true → Swift.isBare second = true →
            Text.lower (Swift.withoutUnderscores first) =
              Text.lower (Swift.withoutUnderscores second))) ∧
    ∀ (settings : Settings) (file : Schema), file.Typed →
      ∀ (name first second property : String) (m : Json),
        file.generate settings =
            .ok (.rejected file.name (.generation (.sameProperty name first second m property))) →
          (∃ message ∈ file.allMessages, Field.Collide message.fields first second) ∧
            (Swift.isBare first = true → Swift.isBare second = true →
              Text.lower (Swift.withoutUnderscores first) =
                Text.lower (Swift.withoutUnderscores second)) := by
  refine ⟨fun s h => ⟨⟨?_, ?_⟩, ⟨Swift.lower_upperCamel h, Swift.lower_lowerCamel h⟩, ?_, ?_⟩,
    fun t shorten message fs file first second property m h => ?_,
    fun settings file hf name first second property m h => ?_⟩
  · rw [Swift.upperCamel, String.toList_ofList]
    exact Swift.underscore_not_mem_of_letters h (Swift.map_toLower_upperCamelChars h)
  · rw [Swift.lowerCamel, String.toList_ofList]
    exact Swift.underscore_not_mem_of_letters h (Swift.map_toLower_lowerCamelChars h)
  · rw [Swift.upperCamel, String.toList_ofList]
    exact Swift.isLower_head?_upperCamelChars h
  · rw [Swift.lowerCamel, String.toList_ofList]
    exact Swift.isUpper_head?_lowerCamelChars h
  · have hcollide := FieldPlan.makeAll_sameProperty FieldPlan.plansOf_nil h
    exact ⟨hcollide, fun hs hu => lower_withoutUnderscores_eq hs hu hcollide.same⟩
  · obtain ⟨message, hmessage, hcollide⟩ := Schema.collide_of_rejected hf h
    exact ⟨⟨message, hmessage, hcollide⟩, fun hs hu =>
      lower_withoutUnderscores_eq hs hu hcollide.same⟩

/-- Two fields of one property. -/
def collidingFields : List Field :=
  [⟨.str "FOO_BAR", 1, .int32, .optional, "", .str "FOO_BAR"⟩,
    ⟨.str "foo__bar", 2, .int32, .optional, "", .str "foo__bar"⟩]

/-- A file with a message of those fields. -/
def collidingFile : Schema :=
  { Schema.blank "a.proto" with messages := [⟨.str "M", .str "M", collidingFields, [], [], []⟩] }

theorem typed_collidingFile : collidingFile.Typed := by
  refine { Schema.typed_blank "a.proto" with messages := fun m hm => ?_ }
  obtain rfl := List.mem_singleton.1 hm
  refine ⟨⟨_, rfl⟩, ⟨_, rfl⟩, fun f hf => ?_, by simp, by simp⟩
  rcases List.mem_pair.1 hf with rfl | rfl <;> exact ⟨⟨_, rfl⟩, ⟨_, rfl⟩⟩

/-- The message is refused for its fields, and the file is rejected. -/
theorem camelCase_letters_fields :
    Text.lower (Swift.lowerCamel "foo__bar") = Text.lower (Swift.withoutUnderscores "foo__bar") ∧
      (∃ t, NameTable.ofSchema collidingFile [] "SwiftProtobuf" = .ok t ∧
        FieldPlan.makeAll t false (.str "M") [] collidingFields = .error (.reported
          (.sameProperty "a.proto" "FOO_BAR" "foo__bar" (.str "M") "fooBar"))) ∧
      collidingFile.generate Settings.default = .ok (.rejected "a.proto" (.generation
        (.sameProperty "a.proto" "FOO_BAR" "foo__bar" (.str "M") "fooBar"))) ∧
      Field.Collide collidingFields "FOO_BAR" "foo__bar" ∧
      Text.lower (Swift.withoutUnderscores "FOO_BAR") =
        Text.lower (Swift.withoutUnderscores "foo__bar") := by
  obtain ⟨hcamel, hfields, hfile⟩ := camelCase_letters
  have htable : ∃ t, NameTable.ofSchema collidingFile [] "SwiftProtobuf" = .ok t ∧
      FieldPlan.makeAll t false (.str "M") [] collidingFields = .error (.reported
        (.sameProperty "a.proto" "FOO_BAR" "foo__bar" (.str "M") "fooBar")) := ⟨_, rfl, rfl⟩
  have hgenerate : collidingFile.generate Settings.default = .ok (.rejected "a.proto" (.generation
      (.sameProperty "a.proto" "FOO_BAR" "foo__bar" (.str "M") "fooBar"))) :=
    (Schema.generate_eq_rejected Settings.typed_default typed_collidingFile _).2
      (Schema.rejectedFor_iff.2 ⟨_, rfl, rfl⟩)
  obtain ⟨t, ht, hmake⟩ := htable
  obtain ⟨hcollide, -⟩ := hfields t _ _ _ _ _ _ _ _ hmake
  have hrejected := hfile _ _ typed_collidingFile _ _ _ _ _ hgenerate
  exact ⟨(hcamel "foo__bar" (List.all_eq_true.1 (by decide))).2.1.2, ⟨t, ht, hmake⟩, hgenerate,
    hcollide, hrejected.2 (by decide) (by decide)⟩

end SchemaToSwift
