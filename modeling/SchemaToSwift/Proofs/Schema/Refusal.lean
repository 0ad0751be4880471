import Mathlib.Data.List.Nodup
import SchemaToSwift.Emit.Basic

/-!
# Schema files that are refused

Generation refuses a field of a declared type that does not name the type, and a field whose
property an earlier field of the message has. `Schema.Refused` says with which error a file is
refused: that of the first message, nested ones included, whose fields are not `Field.Sound`, and in
it of the first field. `Schema.refusal?` finds that error by going through the fields once.
-/

namespace SchemaToSwift

namespace Field

/-- The Swift property of a field. -/
def property (f : Field) : String := propertyName f.name.display

/-- Whether a field is of a declared type and does not name it. -/
def lacksTypeName (f : Field) : Bool := f.type.isNamed && f.typeName == ""

/-- Fields that can stand in one message. -/
structure Sound (fs : List Field) : Prop where
  named : ∀ f ∈ fs, f.lacksTypeName = false
  distinct : (fs.map (·.property)).Nodup

/-- The error of a field after sound fields. A missing type name comes before a common property. -/
def Refused (file : String) (message : Json) (before : List Field) (f : Field)
    (e : GenerationError) : Prop :=
  f.lacksTypeName = true ∧ e = .noTypeName file message f.name ∨
    f.lacksTypeName = false ∧ ∃ g ∈ before, g.property = f.property ∧
      e = .sameProperty file g.name.display f.name.display message f.property

/-- The error of a field after others, if it has one. -/
def refusal? (file : String) (message : Json) (before : List Field) (f : Field) :
    Option GenerationError :=
  if f.lacksTypeName then some (.noTypeName file message f.name)
  else (before.find? (·.property == f.property)).map fun g =>
    .sameProperty file g.name.display f.name.display message f.property

/-- The error of the first field of a list that has one, after the fields before the list. -/
def firstRefusal? (file : String) (message : Json) (before : List Field) :
    List Field → Option GenerationError
  | [] => none
  | f :: rest =>
    (refusal? file message before f).or (firstRefusal? file message (before ++ [f]) rest)

end Field

/-- The error of a message: that of its first field after which the fields are not sound. -/
def MessageType.Refused (file : String) (m : MessageType) (e : GenerationError) : Prop :=
  ∃ xs f ys, m.fields = xs ++ f :: ys ∧ Field.Sound xs ∧ Field.Refused file m.fullName xs f e

/-- The error of a message, if it has one. -/
def MessageType.refusal? (file : String) (m : MessageType) : Option GenerationError :=
  Field.firstRefusal? file m.fullName [] m.fields

/-- The error of a file: that of the first message whose fields are not sound. -/
def Schema.Refused (f : Schema) (e : GenerationError) : Prop :=
  ∃ xs m ys, f.allMessages = xs ++ m :: ys ∧ (∀ n ∈ xs, Field.Sound n.fields) ∧
    m.Refused f.name e

/-- The error of a file, if a message has one. -/
def Schema.refusal? (f : Schema) : Option GenerationError :=
  f.allMessages.findSome? (·.refusal? f.name)

/-! ## Fields -/

namespace Field

variable {file : String} {message : Json} {before : List Field}

theorem Sound.nil : Sound [] := ⟨by simp, by simp⟩

/-- The fields before others are sound if all are. -/
theorem Sound.of_append {rest : List Field} (h : Sound (before ++ rest)) : Sound before where
  named g hg := h.named g (List.mem_append_left _ hg)
  distinct := by
    have hdistinct := h.distinct
    rw [List.map_append] at hdistinct
    exact hdistinct.of_append_left

/-- One more field is sound if it names its type and its property is new. -/
theorem sound_concat {f : Field} :
    Sound (before ++ [f]) ↔
      Sound before ∧ f.lacksTypeName = false ∧ ∀ g ∈ before, g.property ≠ f.property := by
  constructor
  · rintro ⟨hnamed, hdistinct⟩
    rw [List.map_append, List.nodup_append] at hdistinct
    refine ⟨⟨fun g hg => hnamed g (List.mem_append_left _ hg), hdistinct.1⟩,
      hnamed f (by simp), fun g hg => ?_⟩
    exact hdistinct.2.2 g.property (List.mem_map_of_mem hg) f.property (by simp)
  · rintro ⟨⟨hnamed, hdistinct⟩, hf, hnew⟩
    refine ⟨fun g hg => ?_, ?_⟩
    · rcases List.mem_append.1 hg with hg | hg
      · exact hnamed g hg
      · rwa [List.mem_singleton.1 hg]
    · rw [List.map_append, List.nodup_append]
      refine ⟨hdistinct, by simp, ?_⟩
      simpa using hnew

/-- A field has no error exactly when the fields with it are sound. -/
theorem refusal?_eq_none {f : Field} (h : Sound before) :
    refusal? file message before f = none ↔ Sound (before ++ [f]) := by
  rw [sound_concat, refusal?]
  cases hf : f.lacksTypeName with
  | true => simp
  | false => simp [h]

/-- The error of a field after sound fields is the one that it has to have. -/
theorem refusal?_eq_some {f : Field} {e : GenerationError} (h : Sound before) :
    refusal? file message before f = some e ↔ Refused file message before f e := by
  rw [refusal?, Refused]
  cases hf : f.lacksTypeName with
  | true => simp [eq_comm]
  | false =>
    simp only [Bool.false_eq_true, if_false, false_and, true_and, false_or, Option.map_eq_some_iff]
    constructor
    · rintro ⟨g, hg, rfl⟩
      exact ⟨g, List.mem_of_find?_eq_some hg, by simpa using List.find?_some hg, rfl⟩
    · rintro ⟨g, hg, hproperty, rfl⟩
      -- properties are distinct, so the field that is found is the given one
      obtain ⟨g', hg'⟩ : ∃ g', before.find? (·.property == f.property) = some g' := by
        rw [← Option.isSome_iff_exists, List.find?_isSome]
        exact ⟨g, hg, by simpa using hproperty⟩
      have hsame : g'.property = g.property := by
        rw [hproperty]
        simpa using List.find?_some hg'
      have hinj := List.inj_on_of_nodup_map h.distinct
      obtain rfl := hinj (List.mem_of_find?_eq_some hg') hg hsame
      exact ⟨g', hg', rfl⟩

/-- There is no error exactly when all fields together are sound. -/
theorem firstRefusal?_eq_none {fs : List Field} (h : Sound before) :
    firstRefusal? file message before fs = none ↔ Sound (before ++ fs) := by
  induction fs generalizing before with
  | nil => simp [firstRefusal?, h]
  | cons f rest ih =>
    rw [firstRefusal?, Option.or_eq_none_iff, refusal?_eq_none h,
      List.append_cons before f rest]
    constructor
    · rintro ⟨hf, hrest⟩
      exact (ih hf).1 hrest
    · intro hall
      exact ⟨hall.of_append, (ih hall.of_append).2 hall⟩

/-- The error of a list is that of the first field that has one. -/
theorem firstRefusal?_eq_some {fs : List Field} {e : GenerationError} (h : Sound before) :
    firstRefusal? file message before fs = some e ↔
      ∃ xs f ys, fs = xs ++ f :: ys ∧ Sound (before ++ xs) ∧
        Refused file message (before ++ xs) f e := by
  induction fs generalizing before with
  | nil => simp [firstRefusal?]
  | cons f rest ih =>
    rw [firstRefusal?, Option.or_eq_some_iff, refusal?_eq_some h, refusal?_eq_none h]
    constructor
    · rintro (hf | ⟨hf, hrest⟩)
      · exact ⟨[], f, rest, rfl, by simpa using h, by simpa using hf⟩
      · obtain ⟨xs, g, ys, rfl, hxs, hg⟩ := (ih hf).1 hrest
        exact ⟨f :: xs, g, ys, rfl, by simpa using hxs, by simpa using hg⟩
    · rintro ⟨xs, g, ys, heq, hxs, hg⟩
      cases xs with
      | nil =>
        obtain ⟨rfl, rfl⟩ := List.cons.inj heq
        exact .inl (by simpa using hg)
      | cons x xs =>
        obtain ⟨rfl, rfl⟩ := List.cons.inj heq
        rw [List.append_cons before f xs] at hxs hg
        exact .inr ⟨hxs.of_append, (ih hxs.of_append).2 ⟨xs, g, ys, rfl, hxs, hg⟩⟩

end Field

/-! ## Messages and files -/

/-- A message is not refused exactly if its fields are sound. -/
theorem MessageType.refusal?_eq_none {file : String} {m : MessageType} :
    m.refusal? file = none ↔ Field.Sound m.fields :=
  Field.firstRefusal?_eq_none .nil

/-- It is refused with the error of the first field that is not. -/
theorem MessageType.refusal?_eq_some {file : String} {m : MessageType} {e : GenerationError} :
    m.refusal? file = some e ↔ m.Refused file e :=
  Field.firstRefusal?_eq_some .nil

/-- A file has no error exactly when the fields of all its messages are sound. -/
theorem Schema.refusal?_eq_none {f : Schema} :
    f.refusal? = none ↔ ∀ m ∈ f.allMessages, Field.Sound m.fields := by
  simp only [refusal?, List.findSome?_eq_none_iff, MessageType.refusal?_eq_none]

/-- The error that is found is the one that the file has to be refused with. -/
theorem Schema.refusal?_eq_some {f : Schema} {e : GenerationError} :
    f.refusal? = some e ↔ f.Refused e := by
  simp only [refusal?, Refused, List.findSome?_eq_some_iff, MessageType.refusal?_eq_none,
    MessageType.refusal?_eq_some, and_comm]

end SchemaToSwift
