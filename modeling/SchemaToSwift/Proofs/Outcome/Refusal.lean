import SchemaToSwift.Proofs.Batch.Collision
import SchemaToSwift.Proofs.Emit.File

/-!
# Which files are rejected

The verdict on a typed file depends on the file alone: it is rejected for a bad prefix, and else for
the first field, in the first message, that its message cannot have (`Schema.RejectedFor`). So does
the sentence that says why (`Schema.RejectedWith`). Settings decide only what is printed for the
files that are not rejected.
-/

namespace SchemaToSwift

/-! ## Sentences -/

/-- The sentence about a field after sound fields. -/
def Field.RefusedWith (file : String) (message : Json) (before : List Field) (f : Field)
    (sentence : String) : Prop :=
  f.lacksTypeName = true ∧ sentence =
      file ++ ": field '" ++ message.display ++ "." ++ f.name.display ++ "' has no type name." ∨
    f.lacksTypeName = false ∧ ∃ g ∈ before, g.property = f.property ∧ sentence =
      file ++ ": fields '" ++ g.name.display ++ "' and '" ++ f.name.display ++ "' of '" ++
        message.display ++ "' both map to the Swift property '" ++ f.property ++ "'."

/-- The sentence about a message: that about its first field after which the fields are not
sound. -/
def MessageType.RefusedWith (file : String) (m : MessageType) (sentence : String) : Prop :=
  ∃ xs f ys, m.fields = xs ++ f :: ys ∧ Field.Sound xs ∧
    Field.RefusedWith file m.fullName xs f sentence

/-- The error of a field is the one with the sentence about it. -/
theorem Field.refusedWith_iff {file : String} {message : Json} {before : List Field} {f : Field}
    {sentence : String} : RefusedWith file message before f sentence ↔
      ∃ e, Refused file message before f e ∧ e.message = sentence := by
  constructor
  · rintro (⟨hlacks, rfl⟩ | ⟨hnamed, g, hg, hproperty, rfl⟩)
    · exact ⟨_, .inl ⟨hlacks, rfl⟩, rfl⟩
    · exact ⟨_, .inr ⟨hnamed, g, hg, hproperty, rfl⟩, rfl⟩
  · rintro ⟨e, ⟨hlacks, rfl⟩ | ⟨hnamed, g, hg, hproperty, rfl⟩, rfl⟩
    · exact .inl ⟨hlacks, rfl⟩
    · exact .inr ⟨hnamed, g, hg, hproperty, rfl⟩

/-- The error of a message is the one with the sentence about it. -/
theorem MessageType.refusedWith_iff {file : String} {m : MessageType} {sentence : String} :
    m.RefusedWith file sentence ↔ ∃ e, m.Refused file e ∧ e.message = sentence := by
  constructor
  · rintro ⟨xs, f, ys, hfields, hsound, h⟩
    obtain ⟨e, he, hmessage⟩ := Field.refusedWith_iff.1 h
    exact ⟨e, ⟨xs, f, ys, hfields, hsound, he⟩, hmessage⟩
  · rintro ⟨e, ⟨xs, f, ys, hfields, hsound, he⟩, hmessage⟩
    exact ⟨xs, f, ys, hfields, hsound, Field.refusedWith_iff.2 ⟨e, he, hmessage⟩⟩

namespace Schema

/-- The sentence that a file is rejected with. That about the prefix comes first, and then that
about the first message, each before those nested in it, of which the fields are not sound. -/
def RejectedWith (f : Schema) (sentence : String) : Prop :=
  f.HasBadPrefix ∧ sentence = f.name ++
      " has an 'swift_prefix' that isn't a valid Swift identifier (" ++ f.swiftPrefix.display ++
        ")." ∨
    ¬ f.HasBadPrefix ∧ ∃ xs m ys, f.allMessages = xs ++ m :: ys ∧
      (∀ n ∈ xs, Field.Sound n.fields) ∧ m.RefusedWith f.name sentence

/-- Why a file is rejected. The prefix comes first, and then the messages with those nested in them,
each before what is nested in it. -/
def RejectedFor (f : Schema) (reason : Rejection) : Prop :=
  f.HasBadPrefix ∧ reason = .generation (.badPrefix f.name f.swiftPrefix.display) ∨
    ¬ f.HasBadPrefix ∧ ∃ e, f.Refused e ∧ reason = .generation e

variable {settings : Settings} {file : Schema}

/-- The error of a file is its reason to be rejected. -/
theorem rejectedFor_iff {reason : Rejection} :
    file.RejectedFor reason ↔ ∃ e, file.error? = some e ∧ reason = .generation e := by
  rw [RejectedFor, error?]
  split
  · next hbad => simp [hbad]
  · next hgood => simp [hgood, refusal?_eq_some]

/-- The reason to reject a file is the one with the sentence about it. -/
theorem rejectedWith_iff {sentence : String} :
    file.RejectedWith sentence ↔ ∃ reason, file.RejectedFor reason ∧ reason.message = sentence := by
  constructor
  · rintro (⟨hbad, rfl⟩ | ⟨hgood, xs, m, ys, hall, hsound, h⟩)
    · exact ⟨_, .inl ⟨hbad, rfl⟩, rfl⟩
    · obtain ⟨e, he, hmessage⟩ := MessageType.refusedWith_iff.1 h
      exact ⟨_, .inr ⟨hgood, e, ⟨xs, m, ys, hall, hsound, he⟩, rfl⟩, hmessage⟩
  · rintro ⟨reason, ⟨hbad, rfl⟩ | ⟨hgood, e, ⟨xs, m, ys, hall, hsound, he⟩, rfl⟩, rfl⟩
    · exact .inl ⟨hbad, rfl⟩
    · exact .inr ⟨hgood, xs, m, ys, hall, hsound, MessageType.refusedWith_iff.2 ⟨e, he, rfl⟩⟩

/-- Whatever the settings, an outcome of a typed file is a rejection for exactly the reasons that
there are. -/
theorem outcome_eq_rejected (hf : file.Typed) {o : Outcome} (h : file.generate settings = .ok o)
    (reason : Rejection) : o = .rejected file.name reason ↔ file.RejectedFor reason := by
  have houtcome := outcome_of_error hf h
  rw [rejectedFor_iff]
  cases herror : file.error? with
  | some e =>
    rw [herror] at houtcome
    simp [houtcome, eq_comm]
  | none =>
    rw [herror] at houtcome
    cases o with
    | generated => simp
    | rejected => cases houtcome

/-- With typed settings a typed file is rejected whenever there is a reason. -/
theorem generate_eq_rejected (hs : settings.Typed) (hf : file.Typed) (reason : Rejection) :
    file.generate settings = .ok (.rejected file.name reason) ↔ file.RejectedFor reason := by
  constructor
  · intro h
    exact (outcome_eq_rejected hf h reason).1 rfl
  · intro h
    obtain ⟨e, he, rfl⟩ := rejectedFor_iff.1 h
    exact generate_of_error hs hf he

/-- There is a reason exactly if the prefix is bad or the fields of some message are not sound. -/
theorem exists_rejectedFor :
    (∃ reason, file.RejectedFor reason) ↔
      file.HasBadPrefix ∨ ∃ m ∈ file.allMessages, ¬ Field.Sound m.fields := by
  have hrefused : (∃ e, file.Refused e) ↔ ∃ m ∈ file.allMessages, ¬ Field.Sound m.fields := by
    have hnone := file.refusal?_eq_none.not
    rw [← ne_eq, Option.ne_none_iff_exists'] at hnone
    simp only [refusal?_eq_some] at hnone
    simpa using hnone
  rw [← hrefused]
  by_cases hbad : file.HasBadPrefix
  · simp [RejectedFor, hbad]
  · simp [RejectedFor, hbad]

/-- Fields are not sound exactly if one lacks its type's name or two have one property. -/
theorem not_sound_iff {fs : List Field} :
    ¬ Field.Sound fs ↔
      (∃ f ∈ fs, (f.type = .message ∨ f.type = .enum ∨ f.type = .group) ∧ f.typeName = "") ∨
        ¬ (fs.map (·.property)).Nodup := by
  have hlacks (f : Field) : f.lacksTypeName = true ↔
      (f.type = .message ∨ f.type = .enum ∨ f.type = .group) ∧ f.typeName = "" := by
    cases htype : f.type <;> simp [Field.lacksTypeName, FieldType.isNamed, htype]
  have hsound : Field.Sound fs ↔
      (∀ f ∈ fs, f.lacksTypeName = false) ∧ (fs.map (·.property)).Nodup :=
    ⟨fun h => ⟨h.named, h.distinct⟩, fun h => ⟨h.1, h.2⟩⟩
  simp only [hsound, not_and_or, not_forall, Bool.not_eq_false, hlacks, exists_prop]

/-- A typed file is rejected exactly if it asks for a prefix that is no bare identifier, or some
message at any depth has a field that does not name its type or two fields of one property. The
reason is the bad prefix, or else that of the first field in the first such message, and the
sentence is the one about it. Other settings give the same verdict, the same reason and the same
sentence, whenever they give the file an outcome at all. -/
theorem generate_verdict (hs : settings.Typed) (hf : file.Typed) :
    ((∃ o, file.generate settings = .ok o ∧ o.isGenerated = false) ↔
      (file.swiftPrefix.display ≠ "" ∧ Swift.isBare file.swiftPrefix.display = false) ∨
        ∃ m ∈ file.allMessages,
          (∃ f ∈ m.fields, (f.type = .message ∨ f.type = .enum ∨ f.type = .group) ∧
            f.typeName = "") ∨
          ¬ (m.fields.map (·.property)).Nodup) ∧
      (∀ reason, file.generate settings = .ok (.rejected file.name reason) ↔
        file.RejectedFor reason) ∧
      (∀ sentence, (∃ reason, file.generate settings = .ok (.rejected file.name reason) ∧
        reason.message = sentence) ↔ file.RejectedWith sentence) ∧
      (∀ other o, file.generate other = .ok o →
        (∀ reason, o = .rejected file.name reason ↔ file.RejectedFor reason) ∧
        ∀ sentence, (∃ reason, o = .rejected file.name reason ∧ reason.message = sentence) ↔
          file.RejectedWith sentence) ∧
      ∀ other : Settings, other.Typed → ∀ reason,
        file.generate settings = .ok (.rejected file.name reason) ↔
          file.generate other = .ok (.rejected file.name reason) := by
  have hown := generate_eq_rejected hs hf
  refine ⟨?_, hown, fun sentence => ?_, fun other o ho => ?_, fun other hother reason => ?_⟩
  · have hverdict : (∃ o, file.generate settings = .ok o ∧ o.isGenerated = false) ↔
        ∃ reason, file.RejectedFor reason := by
      constructor
      · rintro ⟨o, ho, hrejected⟩
        cases o with
        | generated => cases hrejected
        | rejected name reason =>
          have hname : name = file.name := file_of_generate ho
          exact ⟨reason, (outcome_eq_rejected hf ho reason).1 (by rw [hname])⟩
      · rintro ⟨reason, h⟩
        exact ⟨_, (generate_eq_rejected hs hf reason).2 h, rfl⟩
    rw [hverdict, exists_rejectedFor]
    simp only [HasBadPrefix, not_sound_iff]
  · simp only [rejectedWith_iff, hown]
  · have hother := outcome_eq_rejected hf ho
    exact ⟨hother, fun sentence => by simp only [rejectedWith_iff, hother]⟩
  · rw [hown, generate_eq_rejected hother hf]

/-- A file with a message in a message, in which two fields have one property. -/
def nestedFile : Schema :=
  let field (name : String) (number : Int) : Field :=
    ⟨.str name, number, .int32, .optional, "", .str name⟩
  let inner : MessageType :=
    ⟨.str "N", .str "M.N", [field "foo_bar" 1, field "fooBar" 2], [], [], []⟩
  { blank "a.proto" with messages := [⟨.str "M", .str "M", [], [inner], [], []⟩] }

/-- The file is rejected for the two fields of the inner message. -/
theorem generate_verdict_nested :
    nestedFile.generate Settings.default = .ok (.rejected "a.proto" (.generation
      (.sameProperty "a.proto" "foo_bar" "fooBar" (.str "M.N") "fooBar"))) ∧
    nestedFile.RejectedWith
      ("a.proto: fields 'foo_bar' and 'fooBar' of 'M.N' both map to " ++
        "the Swift property 'fooBar'.") := by
  have htyped : nestedFile.Typed := by
    refine { typed_blank "a.proto" with messages := fun m hm => ?_ }
    have hall : nestedFile.allMessages =
        nestedFile.messages ++ nestedFile.messages.flatMap (·.messages) := rfl
    rw [hall] at hm
    rcases List.mem_pair.1 hm with rfl | rfl
    · exact ⟨⟨_, rfl⟩, ⟨_, rfl⟩, by simp, by simp, by simp⟩
    · refine ⟨⟨_, rfl⟩, ⟨_, rfl⟩, fun f hf => ?_, by simp, by simp⟩
      rcases List.mem_pair.1 hf with rfl | rfl <;> exact ⟨⟨_, rfl⟩, ⟨_, rfl⟩⟩
  have hreason : nestedFile.RejectedFor (.generation
      (.sameProperty "a.proto" "foo_bar" "fooBar" (.str "M.N") "fooBar")) :=
    rejectedFor_iff.2 ⟨_, rfl, rfl⟩
  obtain ⟨-, hrejected, hsentence, -⟩ := generate_verdict Settings.typed_default htyped
  have hgenerate := (hrejected _).2 hreason
  exact ⟨hgenerate, (hsentence _).1 ⟨_, hgenerate, by decide⟩⟩

end Schema

end SchemaToSwift
