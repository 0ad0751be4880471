import SchemaToSwift.Proofs.Emit.Declaration
import SchemaToSwift.Proofs.Emit.Written

/-!
# Blocks of generated code

The declaration of an enum or a message and the runtime support of one are blocks: they begin with a
blank line, and their last line is not blank (`EnumPlan.block_declaration`,
`MessagePlan.block_of_make`). This needs the plans of the fields for the head of a message in the
lite profile only, which ends with the initial value of its last property.
-/

namespace SchemaToSwift

open Printer (Uncut)

/-! ## The end of a block's text -/

/-- Of lines with a line feed after each the last one is left sealed. -/
theorem Text.sealed_unlines {lines : List String} {last : String}
    (hlast : lines.getLast? = some last) (h : Sealed last) :
    Sealed (dropTrailing '\n' (unlines lines)) := by
  obtain ⟨before, rfl⟩ := List.getLast?_eq_some_iff.1 hlast
  have hlines : unlines (before ++ [last]) = unlines before ++ last ++ "\n" := by
    rw [unlines, List.map_append, String.join_append, String.append_assoc]
    simp [unlines]
  rw [hlines, (h.append _).dropTrailing_newline]
  exact h.append _

/-- Texts put together are sealed if the last one is. -/
theorem Text.sealed_intercalate {last : String} (h : Sealed last) (sep : String)
    (before : List String) :
    Sealed (dropTrailing '\n' (sep.intercalate (before ++ [last]))) := by
  rw [(h.intercalate sep before).dropTrailing]
  exact h.intercalate sep before

/-- A brace ends no line. -/
theorem Text.sealed_brace : Sealed "\x7d" := sealed_of_last rfl

/-- The declaration of an enum is sealed by its last brace. -/
theorem EnumBlock.sealed_text (b : EnumBlock) : Text.Sealed (Text.dropTrailing '\n' b.text) := by
  refine Text.sealed_unlines ?_ Text.sealed_brace
  split <;> exact List.getLast?_append

/-- So is its runtime support. -/
theorem EnumRuntimeBlock.sealed_text (b : EnumRuntimeBlock) :
    Text.Sealed (Text.dropTrailing '\n' b.text) :=
  Text.sealed_intercalate Text.sealed_brace _ _

/-- So is that of a message. -/
theorem MessageRuntimeBlock.sealed_text (b : MessageRuntimeBlock) :
    Text.Sealed (Text.dropTrailing '\n' b.text) :=
  Text.sealed_intercalate Text.sealed_brace _ _

/-- The head of a message ends with the initial value of its last property, or with a fixed text. -/
theorem MessageBlock.sealed_text {b : MessageBlock}
    (h : ∀ p ∈ b.properties, Text.Sealed p.initialValue) :
    Text.Sealed (Text.dropTrailing '\n' b.text) := by
  rcases b with ⟨lite, access, runtimePrefix, runtimeModule, name, properties⟩
  cases lite with
  | false =>
    have hlast : Text.Sealed ("  " ++ access ++ "var unknownFields = " ++ runtimePrefix ++
        "UnknownStorage()") := Text.Sealed.append (Text.sealed_of_last rfl) _
    exact Text.sealed_unlines List.getLast?_append hlast
  | true =>
    rcases List.eq_nil_or_concat' properties with rfl | ⟨before, p, rfl⟩
    · exact Text.sealed_unlines rfl (Text.Sealed.append (Text.sealed_of_last rfl) _)
    · have hlast : Text.Sealed ("  " ++ access ++ "var " ++ p.name ++ ": " ++ p.declaration ++
          " = " ++ p.initialValue) := (h p (by simp)).append _
      refine Text.sealed_unlines ?_ hlast
      rw [List.flatMap_append, List.getLast?_append, List.getLast?_append, List.getLast?_append]
      rfl

/-! ## Fields -/

variable {t : NameTable} {shorten : Bool}

/-- The initial value of a stored property is sealed, whatever its type is. -/
theorem NameTable.sealed_initialValue {type : FieldType} {label : Label} {typeName : String}
    {stored : StoredType} (h : t.storedType type label typeName shorten = .ok stored) :
    Text.Sealed stored.initialValue := by
  have hsingle : Text.Sealed stored.defaultValue → Text.Sealed stored.initialValue := by
    intro hdefault
    rw [StoredType.initialValue]
    split
    · exact hdefault
    · exact Text.sealed_of_last rfl
    · exact Text.sealed_of_last rfl
  refine hsingle ?_
  rw [storedType] at h
  split at h
  · next scalar hscalar =>
    cases h
    cases type <;> cases hscalar <;> dsimp only <;> exact Text.sealed_of_last rfl
  · dsimp only at h
    split at h
    · cases h
      dsimp only
      exact Text.sealed_of_last rfl
    · obtain ⟨name, -, h⟩ := Result.bind_eq_ok_iff.1 h
      cases h
      exact Text.Sealed.append (Text.sealed_of_last rfl) name

/-- So is that of a planned field. -/
theorem FieldPlan.sealed_of_make {message : Json} {before : List FieldPlan} {f : Field}
    {plan : FieldPlan} (h : make t shorten message before f = .ok plan) :
    Text.Sealed plan.initialValue := by
  obtain ⟨name, stored, declaration, -, -, hstored, -, rfl⟩ := make_eq_ok h
  exact NameTable.sealed_initialValue hstored

/-- So are those of all planned fields. -/
theorem FieldPlan.sealed_of_makeAll {message : Json} {fs : List Field} {plans : List FieldPlan}
    (h : makeAll t shorten message [] fs = .ok plans) :
    ∀ plan ∈ plans, Text.Sealed plan.initialValue := by
  obtain ⟨own, rfl, hown⟩ : ∃ own, plans = [] ++ own ∧
      List.Forall₂ (fun _ plan => Text.Sealed plan.initialValue) fs own :=
    forall₂_of_makeAll sealed_of_make h
  clear h
  induction hown with
  | nil => exact nofun
  | cons hplan _ ih => exact List.forall_mem_cons.2 ⟨hplan, ih⟩

/-- The initial values of a message's properties are sealed. -/
theorem FieldPlan.sealed_of_properties {plans : List FieldPlan}
    (hplans : ∀ plan ∈ plans, Text.Sealed plan.initialValue) {properties : List PropertyText}
    (h : plans.mapM (·.propertyText) = .ok properties) :
    ∀ p ∈ properties, Text.Sealed p.initialValue := by
  intro p hp
  obtain ⟨plan, hplan, hproperty⟩ := Result.exists_of_mem_mapM h hp
  obtain ⟨text, -, hproperty⟩ := Result.bind_eq_ok_iff.1 hproperty
  cases hproperty
  exact hplans plan hplan

/-! ## Declarations and runtime support -/

variable (s : Surroundings)

/-- A text after a blank line is a block if it is sealed. -/
theorem Emission.block_of_text {α : Type} {value : Except Fault α} {block : α → String}
    (h : ∀ x, value = .ok x → Text.Sealed (Text.dropTrailing '\n' (block x))) :
    (all [.lines [], .onValue value fun x =>
      .lines [Text.dropTrailing '\n' (block x)]]).Block :=
  (closing_onValue fun x hx => closing_line (h x hx)).all_singleton.block

/-- The declaration of an enum is a block. -/
theorem EnumPlan.block_declaration (plan : EnumPlan) : (plan.declaration s).Block :=
  Emission.block_of_text fun _ _ => EnumBlock.sealed_text _

/-- So is its runtime support. -/
theorem EnumPlan.block_runtimeSupport (plan : EnumPlan) : (plan.runtimeSupport s).Block :=
  Emission.block_of_text fun _ _ => EnumRuntimeBlock.sealed_text _

/-- Blocks one after the other are not cut. -/
theorem Emission.uncut_all {α : Type} {xs : List α} {f : α → Emission}
    (h : ∀ x ∈ xs, (f x).Block) : (all (xs.map f)).Writing Uncut :=
  writing_all Printer.additive_uncut <| List.forall_mem_map.2 fun x hx => (h x hx).closing.uncut

namespace MessagePlan

/-- The declarations of messages are printed one after the other. -/
theorem declarations_eq_all (ms : List MessagePlan) :
    declarations s ms = .all (ms.map (·.declaration s)) := by
  induction ms with
  | nil => rfl
  | cons m ms ih =>
    rw [declarations, ih]
    rfl

mutual

/-- What is printed for a message is a block, or nothing. -/
theorem block_of_make : ∀ {m : MessageType} {set set' : ExtensionSet} {plan : MessagePlan},
    make t shorten m set = (set', .ok plan) → (plan.declaration s).Block
  | ⟨name, fullName, fields, messages, enums, extensions⟩, set, set', plan, h => by
    obtain ⟨swiftName, enumPlans, plans, set₁, -, -, -, hmessages, rfl⟩ := make_eq_ok h
    rw [declaration]
    cases hfields : FieldPlan.makeAll t shorten fullName [] fields with
    | error e => exact Emission.block_stop e
    | ok fieldPlans =>
      have hhead : (Emission.onValue (swiftName.asText .noOperation) fun swiftName =>
          .onValue (fieldPlans.mapM (·.propertyText)) fun properties =>
            .lines [Text.dropTrailing '\n' (head s swiftName properties).text]).Closing :=
        Emission.closing_onValue fun _ _ => Emission.closing_onValue fun _ hproperties =>
          Emission.closing_line <| MessageBlock.sealed_text <|
            FieldPlan.sealed_of_properties (FieldPlan.sealed_of_makeAll hfields) hproperties
      have hnested : ((Emission.all (enumPlans.map (·.declaration s))).andThen
          (declarations s plans)).Writing Uncut := by
        rw [declarations_eq_all]
        exact (Emission.uncut_all fun plan _ => plan.block_declaration s).andThen
          Printer.additive_uncut (Emission.uncut_all (block_of_makeAll hmessages))
      have hblank : (Emission.lines []).Writing Uncut :=
        Emission.uncut_lines (List.forall_mem_nil _)
      have hinit : (Emission.lines [s.access ++ "init() \x7b\x7d"]).Writing Uncut :=
        Emission.uncut_lines <| List.forall_mem_singleton.2 <|
          Text.Sealed.append (Text.sealed_of_last rfl) _
      have hbrace := Emission.closing_line Text.sealed_brace
      have hend := (hbrace.all_singleton.after (hinit.inside (·.raise 1))).after hblank
      exact ((hend.after (hnested.inside (·.raise 1))).after hhead.uncut).block

/-- What is printed for messages is one block after the other. -/
theorem block_of_makeAll : ∀ {ms : List MessageType} {set set' : ExtensionSet}
    {plans : List MessagePlan}, makeAll t shorten ms set = (set', .ok plans) →
      ∀ plan ∈ plans, (plan.declaration s).Block
  | [], set, set', plans, h => by
    cases h
    exact nofun
  | m :: ms, set, set', plans, h => by
    obtain ⟨plan, rest, set₁, hplan, hrest, rfl⟩ := makeAll_cons_eq_ok h
    exact List.forall_mem_cons.2 ⟨block_of_make hplan, block_of_makeAll hrest⟩

end

end MessagePlan

end SchemaToSwift
