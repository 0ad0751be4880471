import SchemaToSwift.Proofs.Emit.ExtensionSet
import SchemaToSwift.Schema.Basic

/-!
# Files that use bytes

A file uses bytes if a field or an extension of type bytes stands somewhere in its tree: an
extension in the file itself, or a field or an extension in a message, nested at any depth
(`Schema.UsesBytes`). The flat list of all messages of the file tells as much
(`Schema.needsFoundation_iff`), because it has every message that the tree has.
-/

namespace SchemaToSwift

/-! ## Messages -/

namespace MessageType

/-- A field or an extension of type bytes stands in the message or in one nested in it. -/
inductive UsesBytes : MessageType → Prop
  | field {m : MessageType} {f : Field} (hf : f ∈ m.fields) (htype : f.type = .bytes) : UsesBytes m
  | extension {m : MessageType} {x : ExtensionField} (hx : x ∈ m.extensions)
      (htype : x.type = .bytes) : UsesBytes m
  | nested {m n : MessageType} (hn : n ∈ m.messages) (h : UsesBytes n) : UsesBytes m

/-- What stands in a message stands in it directly or in one nested in it. -/
theorem usesBytes_iff {m : MessageType} :
    m.UsesBytes ↔ m.usesBytes = true ∨ ∃ n ∈ m.messages, n.UsesBytes := by
  simp only [usesBytes, Bool.or_eq_true, List.any_eq_true, beq_iff_eq]
  constructor
  · intro h
    cases h with
    | field hf htype => exact .inl (.inl ⟨_, hf, htype⟩)
    | extension hx htype => exact .inl (.inr ⟨_, hx, htype⟩)
    | nested hn h => exact .inr ⟨_, hn, h⟩
  · rintro ((⟨f, hf, htype⟩ | ⟨x, hx, htype⟩) | ⟨n, hn, h⟩)
    · exact .field hf htype
    · exact .extension hx htype
    · exact .nested hn h

mutual

/-- Bytes are used in a message if one of the messages of its tree uses them itself. -/
theorem any_subtree_iff : ∀ {m : MessageType}, m.subtree.any (·.usesBytes) = true ↔ m.UsesBytes
  | ⟨name, fullName, fields, messages, enums, extensions⟩ => by
    rw [subtree, List.any_cons, Bool.or_eq_true, any_subtrees_iff, usesBytes_iff]

/-- Among messages and those nested in them one has bytes exactly if one of the messages uses bytes.
-/
theorem any_subtrees_iff : ∀ {ms : List MessageType},
    (subtrees ms).any (·.usesBytes) = true ↔ ∃ m ∈ ms, m.UsesBytes
  | [] => by simp [subtrees]
  | m :: ms => by
    rw [subtrees, List.any_append, Bool.or_eq_true, any_subtree_iff, any_subtrees_iff,
      List.exists_mem_cons_iff]

end

end MessageType

/-! ## Files -/

namespace Schema

variable {f : Schema}

/-- A field or an extension of type bytes stands somewhere in the file. -/
def UsesBytes (f : Schema) : Prop :=
  (∃ x ∈ f.extensions, x.type = .bytes) ∨ ∃ m ∈ f.messages, m.UsesBytes

/-- A file needs Foundation exactly if it uses bytes. -/
theorem needsFoundation_iff : f.needsFoundation = true ↔ f.UsesBytes := by
  rw [needsFoundation, Bool.or_eq_true, allMessages, MessageType.any_subtrees_iff]
  simp only [UsesBytes, List.any_eq_true, beq_iff_eq]

/-- What a message of the tree uses, the file uses. -/
theorem usesBytes_of_mem {m : MessageType} (hm : m ∈ f.allMessages) (h : m.usesBytes = true) :
    f.UsesBytes := by
  rw [← needsFoundation_iff, needsFoundation, Bool.or_eq_true]
  exact .inr (List.any_eq_true.2 ⟨m, hm, h⟩)

/-- A field of type bytes makes its file use bytes. -/
theorem usesBytes_of_field {m : MessageType} (hm : m ∈ f.allMessages) {field : Field}
    (hfield : field ∈ m.fields) (htype : field.type = .bytes) : f.UsesBytes :=
  usesBytes_of_mem hm <| Bool.or_eq_true_iff.2 <|
    .inl (List.any_eq_true.2 ⟨field, hfield, beq_iff_eq.2 htype⟩)

/-- So does an extension. -/
theorem usesBytes_of_extension {x : ExtensionField} (hx : x ∈ f.distinctExtensions)
    (htype : x.type = .bytes) : f.UsesBytes := by
  rcases List.mem_append.1 (firstOccurrences_subset _ _ hx) with hx | hx
  · exact .inl ⟨x, hx, htype⟩
  · obtain ⟨m, hm, hx⟩ := List.mem_flatMap.1 hx
    exact usesBytes_of_mem hm <| Bool.or_eq_true_iff.2 <|
      .inr (List.any_eq_true.2 ⟨x, hx, beq_iff_eq.2 htype⟩)

/-- A file that uses bytes declares something. -/
theorem UsesBytes.definesTypes (h : f.UsesBytes) : f.definesTypes = true := by
  simp only [Schema.definesTypes, Bool.or_eq_true, Bool.not_eq_true', List.isEmpty_eq_false_iff]
  rcases h with ⟨x, hx, -⟩ | ⟨m, hm, -⟩
  · exact .inr (List.ne_nil_of_mem hx)
  · exact .inl (.inr (List.ne_nil_of_mem hm))

end Schema

end SchemaToSwift
