import Mathlib.Data.List.Nodup
import SchemaToSwift.Proofs.Emit.Declaration
import SchemaToSwift.Proofs.Emit.Message

/-!
# Stored properties of a message

The declaration of a message stores a property for each field, and in full one more for the fields
that are not known (`MessageBlock.text_eq`). The plans of fields are made one after the other, and
none is made with the property of an earlier one, so the properties of the fields are distinct
(`FieldPlan.properties_of_makeAll`). The property that is added in full is not looked at there: it
is distinct from the others exactly if no field is called `unknownFields` in camel case
(`MessagePlan.storedNames_of_yields`).
-/

namespace SchemaToSwift

namespace MessageBlock

variable (b : MessageBlock)

/-- The lines before the stored properties. -/
def opening : List String :=
  [b.access ++ "struct " ++ b.name ++ ": Sendable \x7b"] ++
    if b.lite then [] else [
      "  // " ++ b.runtimePrefix ++
        "Message conformance is added in an extension below. See the",
      "  // `Message` and `Message+*Additions` files in the " ++ b.runtimeModule ++ " library for",
      "  // methods supported on all messages.",
      ""]

/-- The stored properties, each with what follows its name: those of the fields, and in full the
one for fields that are not known. -/
def stored : List (String × String) :=
  b.properties.map (fun p => (p.name, ": " ++ p.declaration ++ " = " ++ p.initialValue)) ++
    if b.lite then [] else [("unknownFields", " = " ++ b.runtimePrefix ++ "UnknownStorage()")]

/-- The line of a stored property. -/
def storedLine (property : String × String) : String :=
  "  " ++ b.access ++ "var " ++ property.1 ++ property.2

theorem flatMap_concat_eq_intersperse {α : Type} (line : α → String) (between last : String)
    (xs : List α) : (xs.flatMap fun x => [line x, between]) ++ [last] =
      (xs.map line ++ [last]).intersperse between := by
  induction xs with
  | nil => rfl
  | cons x rest ih =>
    rw [List.flatMap_cons, List.append_assoc, ih, List.map_cons]
    cases rest <;> rfl

/-- The head of a declaration is its opening with a line for each stored property, and in full with
blank lines between them. -/
theorem text_eq : b.text = unlines (b.opening ++
    if b.lite then b.stored.map b.storedLine
    else (b.stored.map b.storedLine).intersperse "") := by
  have hfields : b.properties.map (fun p =>
        b.storedLine (p.name, ": " ++ p.declaration ++ " = " ++ p.initialValue)) =
      b.properties.map fun p =>
        "  " ++ b.access ++ "var " ++ p.name ++ ": " ++ p.declaration ++ " = " ++ p.initialValue :=
    List.map_congr_left fun p _ => by simp only [storedLine, String.append_assoc]
  have hunknown :
      b.storedLine ("unknownFields", " = " ++ b.runtimePrefix ++ "UnknownStorage()") =
        "  " ++ b.access ++ "var unknownFields = " ++ b.runtimePrefix ++ "UnknownStorage()" := by
    have hwords : "var unknownFields = " = "var " ++ "unknownFields" ++ " = " := by decide
    rw [hwords]
    simp only [storedLine, String.append_assoc]
  rw [text, opening, stored, List.map_append, List.map_map, Function.comp_def, hfields]
  cases hlite : b.lite with
  | true =>
    rw [List.map_eq_flatMap]
    simp
  | false =>
    simp only [Bool.false_eq_true, if_false, List.map_singleton, hunknown]
    rw [← flatMap_concat_eq_intersperse]
    simp

/-- The names of the stored properties. -/
def storedNames : List String := b.stored.map (·.1)

/-- The stored names are those of the fields and, in the full profile, the one for unknown fields.
-/
theorem storedNames_eq : b.storedNames =
    b.properties.map (·.name) ++ if b.lite then [] else ["unknownFields"] := by
  rw [storedNames, stored, List.map_append, List.map_map]
  cases b.lite <;> rfl

/-- The names of properties that differ stay different with the one that is added in full exactly if
it is none of them. -/
theorem nodup_storedNames_iff (h : (b.properties.map (·.name)).Nodup) :
    b.storedNames.Nodup ↔ b.lite = true ∨ "unknownFields" ∉ b.properties.map (·.name) := by
  rw [storedNames_eq]
  cases b.lite with
  | true => simp [h]
  | false =>
    rw [if_neg Bool.false_ne_true, List.nodup_middle, List.append_nil, List.nodup_cons,
      and_iff_left h]
    exact (or_iff_right Bool.false_ne_true).symm

end MessageBlock

variable {t : NameTable} {shorten : Bool}

/-! ## The properties of fields -/

namespace FieldPlan

/-- Plans that are made after others of distinct properties have the properties of the fields, and
distinct ones too. -/
theorem properties_of_makeAll {message : Json} {fs : List Field} :
    ∀ {before plans : List FieldPlan}, makeAll t shorten message before fs = .ok plans →
      (before.map (·.property)).Nodup →
        (plans.map (·.property)).Nodup ∧ ∃ names : List String,
          fs.map (·.name) = names.map .str ∧
            plans.map (·.property) = before.map (·.property) ++ names.map propertyName := by
  induction fs with
  | nil =>
    intro before plans h hbefore
    cases h
    exact ⟨hbefore, [], rfl, (List.append_nil _).symm⟩
  | cons f rest ih =>
    intro before plans h hbefore
    rw [makeAll] at h
    obtain ⟨plan, hplan, h⟩ := Result.bind_eq_ok_iff.1 h
    obtain ⟨name, stored, declaration, hname, hfresh, -, -, heq⟩ := make_eq_ok hplan
    have hproperty : plan.property = propertyName name := by rw [heq]
    have hnew : propertyName name ∉ before.map (·.property) := by
      intro hmem
      obtain ⟨earlier, hearlier, hsame⟩ := List.mem_map.1 hmem
      exact hfresh earlier hearlier hsame
    have hnext : ((before ++ [plan]).map (·.property)).Nodup := by
      rw [List.map_append, List.map_singleton, hproperty, List.nodup_middle, List.append_nil]
      exact List.nodup_cons.2 ⟨hnew, hbefore⟩
    obtain ⟨hnodup, names, hnames, hproperties⟩ := ih h hnext
    refine ⟨hnodup, name :: names, by rw [List.map_cons, List.map_cons, hname, hnames], ?_⟩
    rw [hproperties, List.map_append, List.append_assoc, List.map_singleton, hproperty]
    rfl

/-- The properties as they are printed have the names of the plans. -/
theorem map_name_of_texts {plans : List FieldPlan} : ∀ {properties : List PropertyText},
    plans.mapM (·.propertyText) = .ok properties →
      properties.map (·.name) = plans.map (·.property) := by
  intro properties h
  rw [Result.mapM_ok_iff] at h
  induction h with
  | nil => rfl
  | cons hproperty _ ih =>
    rw [propertyText] at hproperty
    obtain ⟨text, -, hproperty⟩ := Result.bind_eq_ok_iff.1 hproperty
    cases hproperty
    rw [List.map_cons, List.map_cons, ih]

end FieldPlan

/-! ## The heads of messages -/

/-- The head stores the fields of the message under names that differ, and in full what is not known
of it besides. -/
structure MessageType.StoredIn (m : MessageType) (lite : Bool) (head : MessageBlock) : Prop where
  lite : head.lite = lite
  names : ∃ names : List String, m.fields.map (·.name) = names.map .str ∧
    head.properties.map (·.name) = names.map propertyName
  distinct : (head.properties.map (·.name)).Nodup

namespace MessagePlan

variable {s : Surroundings}

mutual

/-- The heads in the declaration of a message store its fields and those of all messages nested in
it. -/
theorem stored_of_printedAs : ∀ {m : MessageType} {set set' : ExtensionSet} {plan : MessagePlan}
    {d : TypeDeclaration}, make t shorten m set = (set', .ok plan) → plan.PrintedAs s d →
      List.Forall₂ (fun n head => n.StoredIn s.lite head) m.subtree d.heads
  | ⟨name, fullName, fields, messages, enums, extensions⟩, set, set', plan, d, hmake, h => by
    obtain ⟨swiftName, enumPlans, plans, set₁, -, -, -, hmessages, rfl⟩ := make_eq_ok hmake
    generalize hmakeFields : FieldPlan.makeAll t shorten fullName [] fields = made at h
    cases h with
    | message hproperties _ hofMessages =>
      obtain ⟨hnodup, names, hnames, hplans⟩ :=
        FieldPlan.properties_of_makeAll hmakeFields List.nodup_nil
      have htexts := FieldPlan.map_name_of_texts hproperties
      rw [MessageType.subtree, TypeDeclaration.heads, TypeDeclaration.headsAll_append,
        TypeDeclaration.headsAll_enums, List.nil_append]
      refine .cons ⟨rfl, ⟨names, hnames, htexts.trans hplans⟩, ?_⟩
        (storedAll_of_printedAll hmessages hofMessages)
      exact htexts ▸ hnodup

/-- The heads in the code store the fields of their messages, at any depth. -/
theorem storedAll_of_printedAll : ∀ {ms : List MessageType} {set set' : ExtensionSet}
    {plans : List MessagePlan} {ds : List TypeDeclaration},
      makeAll t shorten ms set = (set', .ok plans) → List.Forall₂ (PrintedAs s) plans ds →
        List.Forall₂ (fun n head => n.StoredIn s.lite head) (MessageType.subtrees ms)
          (TypeDeclaration.headsAll ds)
  | [], set, set', plans, ds, hmake, h => by
    cases hmake
    cases h
    exact .nil
  | m :: ms, set, set', plans, ds, hmake, h => by
    obtain ⟨plan, rest, set₁, hplan, hrest, rfl⟩ := makeAll_cons_eq_ok hmake
    cases h with
    | cons hd hds =>
      rw [MessageType.subtrees, TypeDeclaration.headsAll]
      exact List.rel_append (stored_of_printedAs hplan hd) (storedAll_of_printedAll hrest hds)

end

/-- What is printed for a message to the end is a declaration whose heads store the fields of the
message and of all messages nested in it, and in full what is not known of them. The properties of
the fields of one message are distinct; with the one that is added in full they are exactly if none
of them has its name. -/
theorem storedNames_of_yields {m : MessageType} {set set' : ExtensionSet} {plan : MessagePlan}
    (hmake : make t shorten m set = (set', .ok plan)) {p q : Printer}
    (h : (plan.declaration s).Yields p q) :
    ∃ d : TypeDeclaration, Printer.Printed p d.steps q ∧
      List.Forall₂ (fun n head => ∃ names : List String,
        n.fields.map (·.name) = names.map .str ∧
        head.text = unlines (head.opening ++
          if s.lite then head.stored.map head.storedLine
          else (head.stored.map head.storedLine).intersperse "") ∧
        head.storedNames = names.map propertyName ++
          (if s.lite then [] else ["unknownFields"]) ∧
        (names.map propertyName).Nodup ∧
        (head.storedNames.Nodup ↔ s.lite = true ∨ "unknownFields" ∉ names.map propertyName))
        m.subtree d.heads := by
  obtain ⟨d, hprinted, hd⟩ := printed_of_yields h
  refine ⟨d, hprinted, (stored_of_printedAs hmake hd).imp fun n head hstored => ?_⟩
  obtain ⟨hlite, ⟨names, hnames, hproperties⟩, hdistinct⟩ := hstored
  have hadded := head.nodup_storedNames_iff hdistinct
  rw [hlite, hproperties] at hadded
  refine ⟨names, hnames, ?_, ?_, hproperties ▸ hdistinct, hadded⟩
  · rw [head.text_eq, hlite]
  · rw [head.storedNames_eq, hlite, hproperties]

/-- A message whose field has the name of the property that is added in full. -/
def unknownFieldsMessage : MessageType where
  name := .str "M"
  fullName := .str "M"
  fields := [⟨.str "unknown_fields", 1, .int32, .optional, "", .str "unknownFields"⟩]
  messages := []
  enums := []
  extensions := []

theorem typed_unknownFieldsMessage : ∀ n ∈ unknownFieldsMessage.subtree, n.Typed := by
  change ∀ n ∈ [unknownFieldsMessage], n.Typed
  exact List.forall_mem_singleton.2
    ⟨⟨_, rfl⟩, ⟨_, rfl⟩, List.forall_mem_singleton.2 ⟨⟨_, rfl⟩, ⟨_, rfl⟩⟩, nofun, nofun⟩

/-- It is declared in full, with two properties of one name. -/
theorem storedNames_unknownFields : ∃ t set plan q,
    NameTable.ofSchema (Schema.blank "a.proto") [] "SwiftProtobuf" = .ok t ∧
      make t false unknownFieldsMessage .empty = (set, .ok plan) ∧
      (plan.declaration ⟨"", "SwiftProtobuf.", "SwiftProtobuf", false⟩).Yields (.new "  ") q ∧
      ∃ d head, Printer.Printed (.new "  ") (TypeDeclaration.steps d) q ∧ d.heads = [head] ∧
        head.storedNames = ["unknownFields", "unknownFields"] ∧ ¬ head.storedNames.Nodup := by
  obtain ⟨t, hnames, ht⟩ := NameTable.tableOf_ofSchema (Schema.typed_blank "a.proto") []
    "SwiftProtobuf"
  obtain ⟨set, plan, hmake, -, hprints⟩ :=
    make_prints ht false typed_unknownFieldsMessage ExtensionSet.holds_empty
  have hsound : firstRefusal? t.file.name unknownFieldsMessage.subtree = none := rfl
  have hends := hprints.declaration ⟨"", "SwiftProtobuf.", "SwiftProtobuf", false⟩
  rw [hsound, Emission.verdict_none] at hends
  have hyields : (plan.declaration ⟨"", "SwiftProtobuf.", "SwiftProtobuf", false⟩).Yields
      (.new "  ") _ := Prod.ext rfl (hends (.new "  "))
  obtain ⟨d, hprinted, hheads⟩ := storedNames_of_yields hmake hyields
  have hsubtree : unknownFieldsMessage.subtree = [unknownFieldsMessage] := rfl
  rw [hsubtree] at hheads
  obtain ⟨head, rest, ⟨names, hfields, -, hstored, -, hdistinct⟩, hrest, hcons⟩ :=
    List.forall₂_cons_left_iff.1 hheads
  obtain rfl := List.forall₂_nil_left_iff.1 hrest
  obtain rfl : names = ["unknown_fields"] :=
    List.map_injective_iff.2 (fun _ _ h => Json.str.inj h) hfields.symm
  have hproperty : propertyName "unknown_fields" = "unknownFields" := by decide +kernel
  rw [List.map_singleton, hproperty] at hstored hdistinct
  refine ⟨t, set, plan, _, hnames, hmake, hyields, d, head, hprinted, hcons, hstored, ?_⟩
  rw [hdistinct]
  simp

end MessagePlan

end SchemaToSwift
