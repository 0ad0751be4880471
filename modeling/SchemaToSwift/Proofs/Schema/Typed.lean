import SchemaToSwift.Schema.Basic
import SchemaToSwift.Settings.Basic

/-!
# Values of the declared types

Decoding leaves names, comments and other free texts as the values that they were given as.
`Schema.Typed` and `Settings.Typed` say that they all are texts, as the types of a schema file and
of settings declare them, in the declarations at any depth and in the whole tree of dependencies.
-/

namespace SchemaToSwift

/-- A value that is a text. -/
def Json.IsText (v : Json) : Prop := ∃ s, v = .str s

theorem Json.isText_str (s : String) : (Json.str s).IsText := ⟨s, rfl⟩

/-- The text of a value that is one. -/
theorem Json.IsText.asText {v : Json} (h : v.IsText) (fault : Fault) :
    v.asText fault = .ok v.display := by
  obtain ⟨s, rfl⟩ := h
  rfl

/-- A text is the text that it is displayed as. -/
theorem Json.IsText.eq_str {v : Json} (h : v.IsText) : v = .str v.display := by
  obtain ⟨s, rfl⟩ := h
  rfl

/-- It can be shown. -/
theorem Json.IsText.shown {v : Json} (h : v.IsText) : v.shown = .ok v.display := by
  obtain ⟨s, rfl⟩ := h
  rfl

/-- It can be a key of a table. -/
theorem Json.IsText.isKey {v : Json} (h : v.IsText) : v.isKey = true := by
  obtain ⟨s, rfl⟩ := h
  rfl

/-- So it is taken as the key that it is. -/
theorem Json.IsText.asKey {v : Json} (h : v.IsText) : v.asKey = .ok v := by
  obtain ⟨s, rfl⟩ := h
  rfl

/-- A field whose names are texts. -/
structure Field.Typed (f : Field) : Prop where
  name : f.name.IsText
  jsonName : f.jsonName.IsText

/-- An enum whose names and those of its values are texts. -/
structure EnumType.Typed (e : EnumType) : Prop where
  name : e.name.IsText
  fullName : e.fullName.IsText
  values : ∀ v ∈ e.values, v.name.IsText

/-- An extension whose names are texts. -/
structure ExtensionField.Typed (x : ExtensionField) : Prop where
  name : x.name.IsText
  fullName : x.fullName.IsText

/-- A message whose names are texts, and so are those of what is declared in it, nested messages
left out. -/
structure MessageType.Typed (m : MessageType) : Prop where
  name : m.name.IsText
  fullName : m.fullName.IsText
  fields : ∀ f ∈ m.fields, f.Typed
  enums : ∀ e ∈ m.enums, e.Typed
  extensions : ∀ x ∈ m.extensions, x.Typed

/-- Comments that are texts. -/
structure Comments.Typed (c : Comments) : Prop where
  leading : c.leading.IsText
  trailing : c.trailing.IsText
  detached : ∀ d ∈ c.detached, d.IsText

namespace Dependency

mutual

/-- The dependency and all that it makes visible, each before what it makes visible itself. -/
def subtree : Dependency → List Dependency
  | d@⟨_, _, reexports⟩ => d :: subtrees reexports

/-- The dependencies of a list and all that they make visible. -/
def subtrees : List Dependency → List Dependency
  | [] => []
  | d :: ds => subtree d ++ subtrees ds

end

end Dependency

/-- A schema file whose free texts are texts and whose structural paths are numbers. -/
structure Schema.Typed (f : Schema) : Prop where
  package : f.package.IsText
  dialect : f.dialect.IsText
  edition : f.edition.IsText
  swiftPrefix : f.swiftPrefix.IsText
  enums : ∀ e ∈ f.enums, e.Typed
  messages : ∀ m ∈ f.allMessages, m.Typed
  extensions : ∀ x ∈ f.extensions, x.Typed
  dependencies : ∀ d ∈ Dependency.subtrees f.dependencies, d.name.IsText
  comments : ∀ entry ∈ f.comments, (∀ n ∈ entry.1, ∃ i, n = .int i) ∧ entry.2.Typed

/-- Settings whose modules, schema files and patterns are texts. -/
structure Settings.Typed (s : Settings) : Prop where
  modules : ∀ entry ∈ s.modules, entry.1.IsText ∧ entry.2.IsText
  shortened : ∀ pattern ∈ s.shortened, pattern.IsText

/-- A schema file that declares nothing. -/
def Schema.blank (name : String) : Schema where
  name
  package := .str ""
  dialect := .str "proto3"
  edition := .str ""
  swiftPrefix := .str ""
  enums := []
  messages := []
  extensions := []
  dependencies := []
  comments := []

/-- A file that declares nothing has texts only. -/
theorem Schema.typed_blank (name : String) : (blank name).Typed := by
  constructor <;>
    simp [blank, Json.isText_str, allMessages, MessageType.subtrees, Dependency.subtrees]

/-- So have the settings where nothing is set. -/
theorem Settings.typed_default : default.Typed := by
  constructor <;> simp [default]

/-! ## Subtrees -/

namespace MessageType

/-- What holds of a message and of all nested in it holds of the message itself, and of all nested
in its own messages. -/
theorem forall_mem_subtree {P : MessageType → Prop} {name fullName : Json} {fields : List Field}
    {messages : List MessageType} {enums : List EnumType} {extensions : List ExtensionField} :
    (∀ m ∈ subtree ⟨name, fullName, fields, messages, enums, extensions⟩, P m) ↔
      P ⟨name, fullName, fields, messages, enums, extensions⟩ ∧ ∀ m ∈ subtrees messages, P m := by
  simp [subtree]

/-- What holds of the messages of a list holds of the first one's tree and of the rest. -/
theorem forall_mem_subtrees_cons {P : MessageType → Prop} {m : MessageType}
    {ms : List MessageType} :
    (∀ n ∈ subtrees (m :: ms), P n) ↔
      (∀ n ∈ subtree m, P n) ∧ ∀ n ∈ subtrees ms, P n := by
  simp [subtrees, or_imp, forall_and]

end MessageType

namespace Dependency

/-- What all have that a dependency makes visible, the dependency has, and so do those below it. -/
theorem forall_mem_subtree {P : Dependency → Prop} {name : Json} {isPublic : Bool}
    {reexports : List Dependency} :
    (∀ d ∈ subtree ⟨name, isPublic, reexports⟩, P d) ↔
      P ⟨name, isPublic, reexports⟩ ∧ ∀ d ∈ subtrees reexports, P d := by
  simp [subtree]

/-- For a list of dependencies it is the first and the others that have it. -/
theorem forall_mem_subtrees_cons {P : Dependency → Prop} {d : Dependency}
    {ds : List Dependency} :
    (∀ e ∈ subtrees (d :: ds), P e) ↔ (∀ e ∈ subtree d, P e) ∧ ∀ e ∈ subtrees ds, P e := by
  simp [subtrees, or_imp, forall_and]

end Dependency

end SchemaToSwift
