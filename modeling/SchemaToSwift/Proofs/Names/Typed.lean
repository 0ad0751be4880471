import SchemaToSwift.Names.Table
import SchemaToSwift.Proofs.Result
import SchemaToSwift.Proofs.Schema.Typed

/-!
# Names of a typed file

The names of a file whose free texts are texts can always be built, and they are texts again. The
invariant along the tree of declarations is `NamesOf`: every name that has been registered is a
text, and the full names are those of the declarations in order. From it follows what a table of
names answers for any full name (`NameTable.TableOf.isText_typeName`).
-/

namespace SchemaToSwift

/-- The full names of a message and of the enums declared in it. -/
def MessageType.declaredNames (m : MessageType) : List Json :=
  m.fullName :: m.enums.map (·.fullName)

/-- The full names that a file declares, in order. -/
def Schema.declaredNames (f : Schema) : List Json :=
  f.enums.map (·.fullName) ++ f.allMessages.flatMap (·.declaredNames)

/-- A Swift name that is a text with the prefix and without it. -/
structure SwiftName.Textual (n : SwiftName) : Prop where
  full : n.full.IsText
  short : n.short.IsText

theorem SwiftName.Textual.pick {n : SwiftName} (h : n.Textual) (shorten : Bool) :
    (n.pick shorten).IsText := by
  cases shorten
  · exact h.full
  · exact h.short

namespace NameTable

/-- Entries with textual names for the declarations of the given full names. -/
structure NamesOf (entries : List (String × SwiftName)) (fullNames : List Json) : Prop where
  textual : ∀ entry ∈ entries, entry.2.Textual
  keys : entries.map (·.1) = fullNames.map (·.display)

theorem NamesOf.append {xs ys : List (String × SwiftName)} {ns ms : List Json}
    (hx : NamesOf xs ns) (hy : NamesOf ys ms) : NamesOf (xs ++ ys) (ns ++ ms) where
  textual entry h := (List.mem_append.1 h).elim (hx.textual entry) (hy.textual entry)
  keys := by rw [List.map_append, List.map_append, hx.keys, hy.keys]

/-! ## One declaration -/

/-- Where a declaration stands: in a message of a textual name, or at the top of a file with a
textual prefix. -/
def TypedParent : Except Json SwiftName → Prop
  | .ok parent => parent.Textual
  | .error typePrefix => typePrefix.IsText

theorem wordOf_str (s : String) : wordOf (.str s) = .ok (.str (Swift.quoteReserved s)) := rfl

/-- A declaration with a textual name has a textual Swift name. -/
theorem nameIn_typed {parent : Except Json SwiftName} {name : Json} (hp : TypedParent parent)
    (hn : name.IsText) : ∃ n, nameIn parent name = .ok n ∧ n.Textual := by
  obtain ⟨s, rfl⟩ := hn
  cases parent with
  | ok p =>
    obtain ⟨⟨full, hfull⟩, -⟩ := hp
    have h : nameIn (.ok p) (.str s) = .ok
        ⟨.str (full ++ "." ++ Swift.quoteReserved s),
          .str (p.short.display ++ "." ++ Swift.quoteReserved s)⟩ := by
      simp only [nameIn, wordOf_str, Result.bind_ok, hfull, Json.shown_str]
      rfl
    exact ⟨_, h, ⟨_, rfl⟩, ⟨_, rfl⟩⟩
  | error typePrefix =>
    obtain ⟨before, rfl⟩ := hp
    exact ⟨_, rfl, ⟨_, rfl⟩, ⟨_, rfl⟩⟩

/-- The entry of a declaration with a textual full name. -/
theorem namesOf_entry {fullName : Json} {n : SwiftName} (h : fullName.IsText) (hn : n.Textual) :
    ∃ es, entry fullName n = .ok es ∧ NamesOf es [fullName] := by
  obtain ⟨s, rfl⟩ := h
  exact ⟨[(s, n)], rfl, by simpa using hn, rfl⟩

theorem namesOf_enumEntry {parent : Except Json SwiftName} {e : EnumType}
    (hp : TypedParent parent) (he : e.Typed) :
    ∃ es, enumEntry parent e = .ok es ∧ NamesOf es [e.fullName] := by
  obtain ⟨n, hn, htext⟩ := nameIn_typed hp he.name
  rw [enumEntry, hn]
  exact namesOf_entry he.fullName htext

/-- The entries of enums. -/
theorem namesOf_enumEntries {parent : Except Json SwiftName} (hp : TypedParent parent) :
    ∀ {enums : List EnumType}, (∀ e ∈ enums, e.Typed) →
      ∃ es, enums.mapM (enumEntry parent) = .ok es ∧
        NamesOf es.flatten (enums.map (·.fullName))
  | [], _ => ⟨[], rfl, by simp, rfl⟩
  | e :: enums, h => by
    obtain ⟨first, hfirst, hnames⟩ := namesOf_enumEntry hp (h e (.head _))
    obtain ⟨rest, hrest, hall⟩ := namesOf_enumEntries hp fun x hx => h x (.tail _ hx)
    refine ⟨first :: rest, by simp [List.mapM_cons, hfirst, hrest], ?_⟩
    simpa using hnames.append hall

/-! ## The tree of messages -/

mutual

/-- The entries of a message and of everything declared in it. -/
theorem namesOf_messageEntries {parent : Except Json SwiftName} (hp : TypedParent parent) :
    ∀ {m : MessageType}, (∀ n ∈ m.subtree, n.Typed) →
      ∃ es, messageEntries parent m = .ok es ∧
        NamesOf es (m.subtree.flatMap (·.declaredNames))
  | ⟨name, fullName, fields, messages, enums, extensions⟩, h => by
    obtain ⟨hm, hnested⟩ := MessageType.forall_mem_subtree.1 h
    obtain ⟨own, hown, htext⟩ := nameIn_typed hp hm.name
    obtain ⟨first, hfirst, names₁⟩ := namesOf_entry hm.fullName htext
    have hparent : TypedParent (.ok own) := htext
    obtain ⟨ofEnums, henums, names₂⟩ := namesOf_enumEntries hparent hm.enums
    obtain ⟨ofMessages, hmessages, names₃⟩ := namesOf_messagesEntries hparent hnested
    refine ⟨first ++ ofEnums.flatten ++ ofMessages, ?_, ?_⟩
    · rw [messageEntries, hown, Result.bind_ok, hfirst, Result.bind_ok, henums, Result.bind_ok,
        hmessages]
      rfl
    · simpa [MessageType.subtree, MessageType.declaredNames] using
        (names₁.append names₂).append names₃

/-- The entries of messages and of everything declared in them. -/
theorem namesOf_messagesEntries {parent : Except Json SwiftName} (hp : TypedParent parent) :
    ∀ {ms : List MessageType}, (∀ n ∈ MessageType.subtrees ms, n.Typed) →
      ∃ es, messagesEntries parent ms = .ok es ∧
        NamesOf es ((MessageType.subtrees ms).flatMap (·.declaredNames))
  | [], _ => ⟨[], by rw [messagesEntries]; rfl, by simp, rfl⟩
  | m :: ms, h => by
    obtain ⟨hm, hms⟩ := MessageType.forall_mem_subtrees_cons.1 h
    obtain ⟨first, hfirst, names₁⟩ := namesOf_messageEntries hp hm
    obtain ⟨rest, hrest, names₂⟩ := namesOf_messagesEntries hp hms
    refine ⟨first ++ rest, ?_, ?_⟩
    · rw [messagesEntries, hfirst, Result.bind_ok, hrest]
      rfl
    · simpa [MessageType.subtrees] using names₁.append names₂

end

/-! ## The table -/

/-- A table of the names of a typed file. -/
structure TableOf (file : Schema) (t : NameTable) : Prop where
  file_eq : t.file = file
  typePrefix_eq :
    t.typePrefix = .str (Swift.typePrefix file.package.display file.swiftPrefix.display)
  names : NamesOf t.entries file.declaredNames

/-- What a table is made for. -/
theorem fields_of_ofSchema {file : Schema} {modules : List (Json × Json)} {runtimeModule : String}
    {t : NameTable} (h : ofSchema file modules runtimeModule = .ok t) :
    t.file = file ∧ t.modules = modules ∧ t.runtimeModule = runtimeModule := by
  unfold ofSchema at h
  cases h₁ : Swift.typePrefixOf file.package file.swiftPrefix with
  | error e => rw [h₁] at h; cases h
  | ok typePrefix =>
    rw [h₁, Result.bind_ok] at h
    cases h₂ : file.enums.mapM (enumEntry (.error typePrefix)) with
    | error e => rw [h₂] at h; cases h
    | ok enums =>
      rw [h₂, Result.bind_ok] at h
      cases h₃ : messagesEntries (.error typePrefix) file.messages with
      | error e => rw [h₃] at h; cases h
      | ok messages =>
        rw [h₃] at h
        cases h
        exact ⟨rfl, rfl, rfl⟩

/-- The prefix of a file with a textual package and a textual prefix of its own. -/
theorem typePrefixOf_str (package swiftPrefix : String) :
    Swift.typePrefixOf (.str package) (.str swiftPrefix) =
      .ok (.str (Swift.typePrefix package swiftPrefix)) := by
  by_cases h : swiftPrefix = "" <;>
    simp [Swift.typePrefixOf, Swift.typePrefix, Swift.packagePrefixOf, h]

/-- A typed file has a table of names. -/
theorem tableOf_ofSchema {file : Schema} (hf : file.Typed) (modules : List (Json × Json))
    (runtimeModule : String) :
    ∃ t, ofSchema file modules runtimeModule = .ok t ∧ TableOf file t := by
  have hprefix := typePrefixOf_str file.package.display file.swiftPrefix.display
  rw [← hf.package.eq_str, ← hf.swiftPrefix.eq_str] at hprefix
  have hparent : TypedParent
      (.error (.str (Swift.typePrefix file.package.display file.swiftPrefix.display))) := ⟨_, rfl⟩
  obtain ⟨enums, henums, names₁⟩ := namesOf_enumEntries hparent hf.enums
  obtain ⟨messages, hmessages, names₂⟩ := namesOf_messagesEntries hparent hf.messages
  refine ⟨⟨file, modules, runtimeModule, _, enums.flatten ++ messages⟩, ?_, rfl, rfl,
    names₁.append names₂⟩
  rw [ofSchema, hprefix, Result.bind_ok, henums, Result.bind_ok, hmessages]
  rfl

section
variable {file : Schema} {t : NameTable}

/-- A full name is found in the table exactly when the file declares it. -/
theorem TableOf.declared?_eq_none (h : TableOf file t) (fullName : String) :
    t.declared? fullName = none ↔ fullName ∉ file.declaredNames.map (·.display) := by
  rw [← h.names.keys, declared?, List.lookup_eq_none_iff]
  simp only [List.mem_reverse, List.mem_map, not_exists, not_and, bne_iff_ne, ne_eq]
  exact ⟨fun hn e he hk => hn e he hk.symm, fun hn e he hk => hn e he hk.symm⟩

/-- A declared name is a text. -/
theorem TableOf.textual_declared (h : TableOf file t) {fullName : String} {n : SwiftName}
    (hn : t.declared? fullName = some n) : n.Textual := by
  obtain ⟨xs, ys, hxy, -⟩ := List.lookup_eq_some_iff.1 hn
  refine h.names.textual (fullName, n) (List.mem_reverse.1 ?_)
  rw [hxy]
  simp

/-- The Swift name of any type is a text. -/
theorem TableOf.isText_typeName (h : TableOf file t) (fullName : String) (shorten : Bool) :
    (t.typeName fullName shorten).IsText := by
  cases hn : t.declared? (Text.dropLeading '.' fullName) with
  | some n => simpa only [typeName, hn] using (h.textual_declared hn).pick shorten
  | none => simpa only [typeName, hn] using Json.isText_str _

/-- The Swift name of a declaration with a textual full name. -/
theorem TableOf.typeNameOf_ok (h : TableOf file t) {fullName : Json} (hn : fullName.IsText)
    (shorten : Bool) : ∃ name, t.typeNameOf fullName shorten = .ok name ∧ name.IsText := by
  obtain ⟨s, rfl⟩ := hn
  exact ⟨_, rfl, h.isText_typeName s shorten⟩

end

end NameTable

end SchemaToSwift
