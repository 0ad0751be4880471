import SchemaToSwift.Proofs.Names.Typed

/-!
# Paths of declarations

A declaration stands at a path: the names of the messages around it and its own name. The messages
of a file and their paths are those that `Schema.Declares` derives from the top of the file
(`Schema.mem_placedMessages_iff`), so a fact about paths is proved by induction on it. The paths of
all declarations, in order, belong to the declared full names (`Schema.map_fst_typePaths`).
-/

namespace SchemaToSwift

/-! ## Identifiers -/

/-- A text that is a bare identifier. -/
def Json.IsIdentifier (v : Json) : Prop := ∃ s, v = .str s ∧ Swift.isBare s = true

/-- Identifiers are texts. -/
theorem Json.IsIdentifier.isText {v : Json} (h : v.IsIdentifier) : v.IsText := by
  obtain ⟨s, rfl, -⟩ := h
  exact ⟨s, rfl⟩

theorem Json.IsIdentifier.isBare {v : Json} (h : v.IsIdentifier) :
    Swift.isBare v.display = true := by
  obtain ⟨s, rfl, hs⟩ := h
  exact hs

/-- An enum whose name is an identifier. -/
structure EnumType.Identified (e : EnumType) : Prop where
  name : e.name.IsIdentifier
  fullName : e.fullName.IsText

/-- A message whose name is an identifier, and so are those of its enums. -/
structure MessageType.Identified (m : MessageType) : Prop where
  name : m.name.IsIdentifier
  fullName : m.fullName.IsText
  enums : ∀ e ∈ m.enums, e.Identified

namespace Schema

variable (f : Schema)

/-- The components of the package. -/
def scope : List String :=
  if f.package.display = "" then [] else Text.parts '.' f.package.display

/-- A schema file whose package is made of identifiers and whose declared names are identifiers. -/
structure Identified : Prop where
  package : f.package.IsText
  swiftPrefix : f.swiftPrefix.IsText
  scope : ∀ part ∈ f.scope, Swift.isBare part = true
  enums : ∀ e ∈ f.enums, e.Identified
  messages : ∀ m ∈ f.allMessages, m.Identified

end Schema

/-! ## Paths -/

namespace MessageType

mutual

/-- A message in a scope and all messages nested in it, each with its path. -/
def placed (scope : List String) : MessageType → List (List String × MessageType)
  | m@⟨name, _, _, messages, _, _⟩ =>
    (scope ++ [name.display], m) :: placedAll (scope ++ [name.display]) messages

/-- The messages of a list and all messages nested in them, each with its path. -/
def placedAll (scope : List String) : List MessageType → List (List String × MessageType)
  | [] => []
  | m :: ms => placed scope m ++ placedAll scope ms

end

mutual

/-- The messages with their paths are those of the subtree, in the same order. -/
theorem map_snd_placed (scope : List String) :
    ∀ m : MessageType, (m.placed scope).map (·.2) = m.subtree
  | ⟨name, _, _, messages, _, _⟩ => by
    rw [placed, subtree, List.map_cons, map_snd_placedAll (scope ++ [name.display]) messages]

/-- So they are for a list of messages. -/
theorem map_snd_placedAll (scope : List String) :
    ∀ ms : List MessageType, (placedAll scope ms).map (·.2) = subtrees ms
  | [] => rfl
  | m :: ms => by
    rw [placedAll, subtrees, List.map_append, map_snd_placed scope m, map_snd_placedAll scope ms]

end

/-- The full names of a message at a path and of its enums, each with its own path. -/
def typePaths (path : List String) (m : MessageType) : List (Json × List String) :=
  (m.fullName, path) :: m.enums.map fun e => (e.fullName, path ++ [e.name.display])

/-- A message has its own path among those of its types. -/
theorem mem_typePaths_self (path : List String) (m : MessageType) :
    (m.fullName, path) ∈ m.typePaths path := .head _

/-- An enum has the path of its message with its name. -/
theorem mem_typePaths_enum (path : List String) {m : MessageType} {e : EnumType}
    (he : e ∈ m.enums) : (e.fullName, path ++ [e.name.display]) ∈ m.typePaths path :=
  .tail _ (List.mem_map.2 ⟨e, he, rfl⟩)

end MessageType

namespace Schema

variable (f : Schema)

/-- All messages of a file, each with its path. -/
def placedMessages : List (List String × MessageType) := MessageType.placedAll [] f.messages

/-- The full names that a file declares, in order, each with the path of the declaration. -/
def typePaths : List (Json × List String) :=
  f.enums.map (fun e => (e.fullName, [e.name.display])) ++
    f.placedMessages.flatMap fun entry => entry.2.typePaths entry.1

/-- A message that is declared at a path. -/
inductive Declares : List String → MessageType → Prop
  | top {m : MessageType} (hm : m ∈ f.messages) : Declares [m.name.display] m
  | nested {path : List String} {m n : MessageType} (hm : Declares path m) (hn : n ∈ m.messages) :
      Declares (path ++ [n.name.display]) n

end Schema

/-! ### Messages at their paths -/

namespace MessageType

/-- A message stands in its scope. -/
theorem mem_placed_self (scope : List String) (m : MessageType) :
    (scope ++ [m.name.display], m) ∈ m.placed scope := by
  obtain ⟨name, _, _, messages, _, _⟩ := m
  rw [placed]
  exact .head _

/-- So does each message of a list. -/
theorem mem_placedAll_of_mem (scope : List String) {m : MessageType} :
    ∀ {ms : List MessageType}, m ∈ ms → (scope ++ [m.name.display], m) ∈ placedAll scope ms
  | n :: ms, h => by
    rw [placedAll, List.mem_append]
    rcases List.mem_cons.1 h with rfl | h
    · exact .inl (mem_placed_self scope m)
    · exact .inr (mem_placedAll_of_mem scope h)

mutual

/-- With a message stand those nested in it. -/
theorem mem_placed_nested {path scope : List String} {m n : MessageType} (hn : n ∈ m.messages) :
    ∀ {r : MessageType}, (path, m) ∈ r.placed scope → (path ++ [n.name.display], n) ∈ r.placed scope
  | ⟨name, fullName, fields, messages, enums, extensions⟩, h => by
    rw [placed] at h ⊢
    rcases List.mem_cons.1 h with hself | h
    · obtain ⟨rfl, rfl⟩ := Prod.mk.inj hself
      exact .tail _ (mem_placedAll_of_mem _ hn)
    · exact .tail _ (mem_placedAll_nested hn h)

/-- A nested message stands in the path of the one around it. -/
theorem mem_placedAll_nested {path scope : List String} {m n : MessageType}
    (hn : n ∈ m.messages) : ∀ {rs : List MessageType},
      (path, m) ∈ placedAll scope rs → (path ++ [n.name.display], n) ∈ placedAll scope rs
  | r :: rs, h => by
    rw [placedAll, List.mem_append] at h ⊢
    exact h.imp (mem_placed_nested hn) (mem_placedAll_nested hn)

end

section
variable {f : Schema}

mutual

/-- What stands in a message that is declared at its path is declared at its own. -/
theorem declares_of_mem_placed {scope : List String} : ∀ {r : MessageType},
    f.Declares (scope ++ [r.name.display]) r →
      ∀ entry ∈ r.placed scope, f.Declares entry.1 entry.2
  | ⟨name, fullName, fields, messages, enums, extensions⟩, h, entry, hentry => by
    rw [placed] at hentry
    rcases List.mem_cons.1 hentry with rfl | hentry
    · exact h
    · exact declares_of_mem_placedAll (fun n hn => .nested h hn) entry hentry

/-- So it is for a list of messages, which the induction goes through at once. -/
theorem declares_of_mem_placedAll {scope : List String} : ∀ {rs : List MessageType},
    (∀ r ∈ rs, f.Declares (scope ++ [r.name.display]) r) →
      ∀ entry ∈ placedAll scope rs, f.Declares entry.1 entry.2
  | r :: rs, h, entry, hentry => by
    rw [placedAll, List.mem_append] at hentry
    rcases hentry with hentry | hentry
    · exact declares_of_mem_placed (h r (.head _)) entry hentry
    · exact declares_of_mem_placedAll (fun n hn => h n (.tail _ hn)) entry hentry

end

end

end MessageType

namespace Schema

section
variable {f : Schema} {path : List String} {m : MessageType}

/-- The messages of a file with their paths are all its messages. -/
theorem map_snd_placedMessages (f : Schema) : f.placedMessages.map (·.2) = f.allMessages :=
  MessageType.map_snd_placedAll [] f.messages

/-- The messages that are declared are those of the file, each at its path. -/
theorem mem_placedMessages_iff : (path, m) ∈ f.placedMessages ↔ f.Declares path m := by
  constructor
  · exact MessageType.declares_of_mem_placedAll (fun r hr => .top hr) (path, m)
  · intro h
    induction h with
    | top hm => exact MessageType.mem_placedAll_of_mem [] hm
    | nested _ hn ih => exact MessageType.mem_placedAll_nested hn ih

/-- A message that is declared at a path is among them. -/
theorem Declares.mem_allMessages (h : f.Declares path m) : m ∈ f.allMessages := by
  rw [← map_snd_placedMessages]
  exact List.mem_map_of_mem (mem_placedMessages_iff.2 h)

/-- What is related to the messages at their paths is related to declared messages. -/
theorem forall₂_and_declares {β : Type} {R : List String × MessageType → β → Prop} {bs : List β}
    (h : List.Forall₂ R f.placedMessages bs) :
    List.Forall₂ (fun placed b => f.Declares placed.1 placed.2 ∧ R placed b) f.placedMessages bs :=
  (List.forall₂_and_left _ _).2 ⟨fun _ hplaced => mem_placedMessages_iff.1 hplaced, h⟩

/-- A path ends with the name of its message. -/
theorem Declares.eq_concat (h : f.Declares path m) :
    ∃ scope, path = scope ++ [m.name.display] := by
  cases h with
  | top _ => exact ⟨[], rfl⟩
  | nested _ _ => exact ⟨_, rfl⟩

theorem Declares.ne_nil (h : f.Declares path m) : path ≠ [] := by
  cases h <;> simp

/-- A file that declares a message has one at its top. -/
theorem Declares.messages_ne_nil (h : f.Declares path m) : f.messages ≠ [] := by
  induction h with
  | top hm => exact List.ne_nil_of_mem hm
  | nested _ _ ih => exact ih

/-- The names on the path of a message are identifiers. -/
theorem Declares.isBare (hf : f.Identified) (h : f.Declares path m) :
    ∀ name ∈ path, Swift.isBare name = true := by
  induction h with
  | top hm =>
    intro name hname
    rw [List.mem_singleton.1 hname]
    exact (hf.messages _ (Declares.top hm).mem_allMessages).name.isBare
  | nested hm hn ih =>
    intro name hname
    rcases List.mem_append.1 hname with hname | hname
    · exact ih name hname
    · rw [List.mem_singleton.1 hname]
      exact (hf.messages _ (Declares.nested hm hn).mem_allMessages).name.isBare

end

section
variable {f : Schema}

/-- The paths are those of the names that a file declares, in the same order. -/
theorem map_fst_typePaths (f : Schema) : f.typePaths.map (·.1) = f.declaredNames := by
  simp [typePaths, declaredNames, ← map_snd_placedMessages, List.map_flatMap, List.flatMap_map,
    MessageType.typePaths, MessageType.declaredNames, Function.comp_def]

/-- A message that is declared at a path has this one among them. -/
theorem mem_typePaths_of_declares {path : List String} {m : MessageType} (h : f.Declares path m) :
    (m.fullName, path) ∈ f.typePaths :=
  List.mem_append_right _ <| List.mem_flatMap.2
    ⟨(path, m), mem_placedMessages_iff.2 h, MessageType.mem_typePaths_self path m⟩

/-- The paths of declarations are made of identifiers. -/
theorem isBare_of_mem_typePaths (hf : f.Identified) {entry : Json × List String}
    (h : entry ∈ f.typePaths) : entry.2 ≠ [] ∧ ∀ name ∈ entry.2, Swift.isBare name = true := by
  rcases List.mem_append.1 h with h | h
  · obtain ⟨e, he, rfl⟩ := List.mem_map.1 h
    refine ⟨by simp, fun name hname => ?_⟩
    rw [List.mem_singleton.1 hname]
    exact (hf.enums e he).name.isBare
  · obtain ⟨⟨path, m⟩, hplaced, hentry⟩ := List.mem_flatMap.1 h
    have hm := mem_placedMessages_iff.1 hplaced
    have hpath := hm.isBare hf
    rcases List.mem_cons.1 hentry with rfl | hentry
    · exact ⟨hm.ne_nil, hpath⟩
    · obtain ⟨e, he, rfl⟩ := List.mem_map.1 hentry
      refine ⟨by simp, fun name hname => ?_⟩
      rcases List.mem_append.1 hname with hname | hname
      · exact hpath name hname
      · rw [List.mem_singleton.1 hname]
        exact ((hf.messages m hm.mem_allMessages).enums e he).name.isBare

end

end Schema

end SchemaToSwift
