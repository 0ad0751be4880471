import SchemaToSwift.Emit.ExtensionSet
import SchemaToSwift.Proofs.Names.Reading
import SchemaToSwift.Proofs.Names.Typed
import SchemaToSwift.Proofs.Swift.Literal
import SchemaToSwift.Proofs.Text.Case
import SchemaToSwift.Proofs.Text.OneLine

/-!
# Names of one line

Where no name of a schema file has a line feed, none of its Swift names has one: camel case,
capitals and backticks bring none in (`Text.BeforeLetters`), and names are put together with dots
and underscores. The invariant along the tree of declarations is that the Swift name of what they
stand in is one line (`NameTable.OneLine`).
-/

namespace SchemaToSwift

open Text (OneLine)

/-! ## Words -/

namespace Swift

theorem lineFeed_beforeLetters : Text.BeforeLetters '\n' := by decide

/-- A bare identifier is one line. -/
theorem lineFeed_not_mem_bare {cs : List Char} (h : isBareChars cs = true) : '\n' ∉ cs := by
  intro hmem
  cases cs with
  | nil => cases hmem
  | cons c rest =>
    rw [isBareChars, Bool.and_eq_true, List.all_eq_true] at h
    rcases List.mem_cons.1 hmem with rfl | hrest
    · exact absurd h.1 (by decide)
    · exact absurd (h.2 _ hrest) (by decide)

/-- Backticks are put around a name on its line. -/
theorem oneLine_quoteReserved {s : String} (h : OneLine s) : OneLine (quoteReserved s) := by
  unfold quoteReserved
  split
  · rw [backticked, Text.oneLine_append, Text.oneLine_append]
    exact ⟨⟨by decide, h⟩, by decide⟩
  · exact h

/-- A capital in place of the first character brings no line feed in. -/
theorem lineFeed_not_mem_capitalize {cs : List Char} (h : '\n' ∉ cs) : '\n' ∉ capitalize cs := by
  cases cs with
  | nil => exact h
  | cons c rest =>
    rw [List.mem_cons, not_or] at h
    rw [capitalize, List.mem_append, not_or]
    exact ⟨fun hmem => h.1 (Text.eq_of_mem_upperChar lineFeed_beforeLetters hmem), h.2⟩

/-- Nor does camel case: words are parts of the name, in lower case or as they are. -/
theorem lineFeed_not_mem_upperCamelChars {cs : List Char} (h : '\n' ∉ cs) :
    '\n' ∉ upperCamelChars cs := by
  have hwords : ∀ word ∈ words cs, '\n' ∉ word := fun word hword hmem =>
    h ((Text.sublist_of_mem_splitAt (List.mem_of_mem_filter hword)).subset hmem)
  have hcased : ∀ word ∈ if Text.allUpper cs then (words cs).map Text.lowerChars else words cs,
      '\n' ∉ word := by
    split
    · rw [List.forall_mem_map]
      exact fun word hword hmem =>
        hwords word hword (Text.mem_of_mem_lowerChars lineFeed_beforeLetters hmem)
    · exact hwords
  unfold upperCamelChars
  rw [List.mem_flatten]
  rintro ⟨_, hcapital, hmem⟩
  obtain ⟨word, hword, rfl⟩ := List.mem_map.1 hcapital
  exact lineFeed_not_mem_capitalize (hcased word hword) hmem

/-- So a name of one line is one line in upper camel case. -/
theorem oneLine_upperCamel {s : String} (h : OneLine s) : OneLine (upperCamel s) := by
  rw [OneLine, upperCamel, String.toList_ofList]
  exact lineFeed_not_mem_upperCamelChars h

/-- So it is in lower camel case. -/
theorem oneLine_lowerCamel {s : String} (h : OneLine s) : OneLine (lowerCamel s) := by
  have hjoined := lineFeed_not_mem_upperCamelChars h
  rw [OneLine, lowerCamel, String.toList_ofList, lowerCamelChars, List.mem_append]
  rintro (hlower | hrest)
  · exact hjoined (List.mem_of_mem_take (Text.mem_of_mem_lowerChars lineFeed_beforeLetters hlower))
  · exact hjoined (List.mem_of_mem_drop hrest)

/-- In a prefix, dots become underscores and letters after them capitals. -/
theorem lineFeed_not_mem_prefixChars {cs : List Char} (h : '\n' ∉ cs) (capital : Bool) :
    '\n' ∉ prefixChars capital cs := by
  induction cs generalizing capital with
  | nil => exact h
  | cons c rest ih =>
    rw [List.mem_cons, not_or] at h
    rw [prefixChars]
    split
    · exact ih h.2 true
    · split
      · exact List.not_mem_cons_of_ne_of_not_mem (by decide) (ih h.2 true)
      · split
        · rw [List.mem_append, not_or]
          exact ⟨fun hmem => h.1 (Text.eq_of_mem_upperChar lineFeed_beforeLetters hmem),
            ih h.2 false⟩
        · exact List.not_mem_cons_of_ne_of_not_mem h.1 (ih h.2 false)

/-- So the prefix of a package of one line is one line. -/
theorem oneLine_packagePrefix {package : String} (h : OneLine package) :
    OneLine (packagePrefix package) := by
  unfold packagePrefix
  split
  · decide
  · rw [OneLine, String.toList_ofList, List.mem_append, not_or]
    exact ⟨lineFeed_not_mem_prefixChars h true, by decide⟩

/-- So is a prefix that is given, or made of the package. -/
theorem oneLine_typePrefix {package swiftPrefix : String} (hpackage : OneLine package)
    (hswift : OneLine swiftPrefix) : OneLine (typePrefix package swiftPrefix) := by
  unfold typePrefix
  split
  · exact oneLine_packagePrefix hpackage
  · exact hswift

end Swift

/-- The property of a field is one line if the name of the field is. -/
theorem oneLine_propertyName {field : String} (h : OneLine field) : OneLine (propertyName field) :=
  Swift.oneLine_quoteReserved (Swift.oneLine_lowerCamel h)

/-- The case of a value is one line if the name of the value is. -/
theorem EnumCase.oneLine_name (enum : String) {value : String} (h : OneLine value) :
    OneLine (EnumCase.name enum value) := by
  refine Swift.oneLine_quoteReserved (Swift.oneLine_lowerCamel ?_)
  rw [OneLine, String.toList_ofList]
  unfold stripped
  dsimp only
  split
  · next hbare => exact Swift.lineFeed_not_mem_bare (Bool.and_eq_true_iff.1 hbare).2
  · exact h

/-! ## Schema files -/

/-- A value that is a text of one line. -/
def Json.IsLine (v : Json) : Prop := ∃ s, v = .str s ∧ OneLine s

theorem Json.isLine_str {s : String} : (Json.str s).IsLine ↔ OneLine s :=
  ⟨by rintro ⟨_, ⟨⟩, h⟩; exact h, fun h => ⟨s, rfl, h⟩⟩

/-- It is displayed as it is. -/
theorem Json.IsLine.display {v : Json} (h : v.IsLine) : OneLine v.display := by
  obtain ⟨s, rfl, hs⟩ := h
  exact hs

/-- An enum whose names and those of its values are texts of one line. -/
structure EnumType.OneLine (e : EnumType) : Prop where
  name : e.name.IsLine
  fullName : e.fullName.IsLine
  values : ∀ v ∈ e.values, v.name.IsLine

/-- A field whose name and the name of whose type are texts of one line. -/
structure Field.OneLine (f : Field) : Prop where
  name : f.name.IsLine
  typeName : Text.OneLine f.typeName

/-- An extension whose full name and the names of whose types are texts of one line. -/
structure ExtensionField.OneLine (x : ExtensionField) : Prop where
  fullName : x.fullName.IsLine
  extendee : Text.OneLine x.extendee
  typeName : Text.OneLine x.typeName

/-- A message whose names are texts of one line, and so are those of what is declared in it, nested
messages left out. -/
structure MessageType.OneLine (m : MessageType) : Prop where
  name : m.name.IsLine
  fullName : m.fullName.IsLine
  fields : ∀ f ∈ m.fields, f.OneLine
  enums : ∀ e ∈ m.enums, e.OneLine
  extensions : ∀ x ∈ m.extensions, x.OneLine

/-- A schema file whose package and prefix and all names of whose declarations are texts of one
line. The name of the file itself and the comments are left out. -/
structure Schema.OneLine (f : Schema) : Prop where
  package : f.package.IsLine
  swiftPrefix : f.swiftPrefix.IsLine
  enums : ∀ e ∈ f.enums, e.OneLine
  messages : ∀ m ∈ f.allMessages, m.OneLine
  extensions : ∀ x ∈ f.extensions, x.OneLine

/-! ## The table of names -/

/-- A Swift name that is a text of one line with the prefix and without it. -/
structure SwiftName.OneLine (n : SwiftName) : Prop where
  full : n.full.IsLine
  short : n.short.IsLine

/-- Either form of such a name is one line. -/
theorem SwiftName.OneLine.pick {n : SwiftName} (h : n.OneLine) (shorten : Bool) :
    (n.pick shorten).IsLine := by
  cases shorten
  · exact h.full
  · exact h.short

namespace NameTable

/-- A table of names of one line. -/
structure OneLine (t : NameTable) : Prop where
  typePrefix : t.typePrefix.IsLine
  entries : ∀ entry ∈ t.entries, entry.2.OneLine
  runtimeModule : Text.OneLine t.runtimeModule

/-- Where a declaration stands: in a message whose name is one line, or at the top of a file whose
prefix is one. -/
def LineParent : Except Json SwiftName → Prop
  | .ok parent => parent.OneLine
  | .error typePrefix => typePrefix.IsLine

/-- The name of a declaration is one line if its own name is, and that of what it stands in. -/
theorem oneLine_nameIn {parent : Except Json SwiftName} {name : Json} {n : SwiftName}
    (hp : LineParent parent) (hn : name.IsLine) (h : nameIn parent name = .ok n) : n.OneLine := by
  obtain ⟨s, rfl, hs⟩ := hn
  have hword := Swift.oneLine_quoteReserved hs
  cases parent with
  | ok p =>
    obtain ⟨⟨full, hfull, hfullLine⟩, hshort⟩ := hp
    simp only [nameIn, wordOf_str, Result.bind_ok, hfull, Json.shown_str] at h
    rw [Result.pure_eq, Except.ok.injEq] at h
    subst h
    constructor
    · rw [Json.isLine_str, Text.oneLine_append, Text.oneLine_append]
      exact ⟨⟨hfullLine, by decide⟩, hword⟩
    · rw [Json.isLine_str, Text.oneLine_append, Text.oneLine_append]
      exact ⟨⟨hshort.display, by decide⟩, hword⟩
  | error typePrefix =>
    obtain ⟨before, rfl, hbefore⟩ := hp
    cases h
    exact ⟨Json.isLine_str.2 (Text.oneLine_append.2 ⟨hbefore, hword⟩), Json.isLine_str.2 hword⟩

/-- The entry of a declaration has its Swift name. -/
theorem oneLine_entry {fullName : Json} {n : SwiftName} (hn : n.OneLine)
    {es : List (String × SwiftName)} (h : entry fullName n = .ok es) : ∀ e ∈ es, e.2.OneLine := by
  obtain ⟨key, -, h⟩ := Result.bind_eq_ok_iff.1 h
  split at h
  · cases h
    exact List.forall_mem_singleton.2 hn
  · cases h
    exact List.forall_mem_nil _

/-- So are the names of the enums in a message. -/
theorem oneLine_enumEntries {parent : Except Json SwiftName} (hp : LineParent parent)
    {enums : List EnumType} (henums : ∀ e ∈ enums, e.OneLine)
    {ess : List (List (String × SwiftName))} (h : enums.mapM (enumEntry parent) = .ok ess) :
    ∀ e ∈ ess.flatten, e.2.OneLine := by
  intro entry hentry
  obtain ⟨es, hes, hentry⟩ := List.mem_flatten.1 hentry
  obtain ⟨e, he, hmade⟩ := Result.exists_of_mem_mapM h hes
  obtain ⟨n, hn, hmade⟩ := Result.bind_eq_ok_iff.1 hmade
  exact oneLine_entry (oneLine_nameIn hp (henums e he).name hn) hmade entry hentry

mutual

/-- The entries of a message and of everything declared in it. -/
theorem oneLine_messageEntries {parent : Except Json SwiftName} (hp : LineParent parent) :
    ∀ {m : MessageType}, (∀ n ∈ m.subtree, n.OneLine) → ∀ {es : List (String × SwiftName)},
      messageEntries parent m = .ok es → ∀ e ∈ es, e.2.OneLine
  | ⟨name, fullName, fields, messages, enums, extensions⟩, hm, es, h => by
    obtain ⟨hown, hnested⟩ := MessageType.forall_mem_subtree.1 hm
    rw [messageEntries] at h
    obtain ⟨own, hnamed, h⟩ := Result.bind_eq_ok_iff.1 h
    obtain ⟨first, hfirst, h⟩ := Result.bind_eq_ok_iff.1 h
    obtain ⟨ofEnums, henums, h⟩ := Result.bind_eq_ok_iff.1 h
    obtain ⟨ofMessages, hmessages, h⟩ := Result.bind_eq_ok_iff.1 h
    cases h
    have hline := oneLine_nameIn hp hown.name hnamed
    have hparent : LineParent (.ok own) := hline
    exact List.forall_mem_append.2 ⟨List.forall_mem_append.2 ⟨oneLine_entry hline hfirst,
      oneLine_enumEntries hparent hown.enums henums⟩,
      oneLine_messagesEntries hparent hnested hmessages⟩

/-- The entries of messages and of everything declared in them. -/
theorem oneLine_messagesEntries {parent : Except Json SwiftName} (hp : LineParent parent) :
    ∀ {ms : List MessageType}, (∀ n ∈ MessageType.subtrees ms, n.OneLine) →
      ∀ {es : List (String × SwiftName)}, messagesEntries parent ms = .ok es →
        ∀ e ∈ es, e.2.OneLine
  | [], _, es, h => by
    rw [messagesEntries] at h
    cases h
    exact List.forall_mem_nil _
  | m :: ms, hms, es, h => by
    obtain ⟨hm, hrest⟩ := MessageType.forall_mem_subtrees_cons.1 hms
    rw [messagesEntries] at h
    obtain ⟨first, hfirst, h⟩ := Result.bind_eq_ok_iff.1 h
    obtain ⟨rest, hrest', h⟩ := Result.bind_eq_ok_iff.1 h
    cases h
    exact List.forall_mem_append.2 ⟨oneLine_messageEntries hp hm hfirst,
      oneLine_messagesEntries hp hrest hrest'⟩

end

/-- A file whose names are texts of one line has a table of such names. -/
theorem oneLine_ofSchema {file : Schema} (hfile : file.OneLine) {modules : List (Json × Json)}
    {runtimeModule : String} (hruntime : Text.OneLine runtimeModule) {t : NameTable}
    (h : ofSchema file modules runtimeModule = .ok t) : t.OneLine := by
  obtain ⟨typePrefix, hprefix, h⟩ := Result.bind_eq_ok_iff.1 h
  obtain ⟨enums, henums, h⟩ := Result.bind_eq_ok_iff.1 h
  obtain ⟨messages, hmessages, h⟩ := Result.bind_eq_ok_iff.1 h
  cases h
  have hline : typePrefix.IsLine := by
    obtain ⟨package, hpackage, hpackageLine⟩ := hfile.package
    obtain ⟨swiftPrefix, hswift, hswiftLine⟩ := hfile.swiftPrefix
    rw [hpackage, hswift, typePrefixOf_str] at hprefix
    cases hprefix
    exact Json.isLine_str.2 (Swift.oneLine_typePrefix hpackageLine hswiftLine)
  have hparent : LineParent (.error typePrefix) := hline
  exact ⟨hline, List.forall_mem_append.2 ⟨oneLine_enumEntries hparent hfile.enums henums,
    oneLine_messagesEntries hparent hfile.messages hmessages⟩, hruntime⟩

namespace OneLine

variable {t : NameTable} (ht : t.OneLine)
include ht

/-- The name that a table has for a type is one line. -/
theorem declared {fullName : String} {n : SwiftName} (h : t.declared? fullName = some n) :
    n.OneLine := by
  obtain ⟨xs, ys, hentries, -⟩ := List.lookup_eq_some_iff.1 h
  refine ht.entries (fullName, n) (List.mem_reverse.1 ?_)
  rw [hentries]
  simp

/-- The prefix of the runtime library's names. -/
theorem runtimePrefix : Text.OneLine t.runtimePrefix := by
  unfold NameTable.runtimePrefix
  split
  · decide
  · exact Text.oneLine_append.2 ⟨ht.runtimeModule, by decide⟩

end OneLine

/-- So is the name of a type that it does not have. -/
theorem oneLine_foreignName {fullName : String} (h : Text.OneLine fullName) (shorten : Bool) :
    Text.OneLine (foreignName fullName shorten) := by
  have hsplit : Text.parts '.' fullName ≠ [] := by simp [Text.parts, Text.splitAt_ne_nil]
  have hparts := h.parts '.'
  rw [← (splitPackage_eq hsplit).1, List.forall_mem_append] at hparts
  unfold foreignName
  rw [Text.oneLine_append]
  constructor
  · split
    · decide
    · exact Swift.oneLine_packagePrefix (.intercalate (by decide) hparts.1)
  · refine .intercalate (by decide) (List.forall_mem_map.2 fun name hname => ?_)
    exact Swift.oneLine_quoteReserved (hparts.2 name hname)

namespace OneLine

variable {t : NameTable} (ht : t.OneLine) {fullName : String}
include ht

section
variable (hname : Text.OneLine fullName) (shorten : Bool)
include hname

/-- The Swift name of a type is a text of one line. -/
theorem typeName : (t.typeName fullName shorten).IsLine := by
  unfold NameTable.typeName
  dsimp only
  split
  · next n hn => exact (ht.declared hn).pick shorten
  · exact Json.isLine_str.2 (oneLine_foreignName (hname.dropLeading '.') shorten)

end

/-- The scope of an extension is a text of one line. -/
theorem extensionScope {shorten : Bool} {scope : Json}
    (h : t.extensionScope fullName shorten = .ok scope) : scope.IsLine := by
  unfold NameTable.extensionScope at h
  split at h
  · next n hn =>
    obtain ⟨text, htext, hline⟩ := (ht.declared hn).pick shorten
    rw [htext] at h
    cases h
    rw [Json.isLine_str, Text.oneLine_append]
    refine ⟨?_, by decide⟩
    rw [Text.OneLine, String.toList_ofList, List.mem_map]
    rintro ⟨c, hc, heq⟩
    split at heq
    · cases heq
    · exact hline (heq ▸ hc)
  · cases h
    split
    · exact Json.isLine_str.2 (by decide)
    · exact ht.typePrefix

/-- The property of an extension is one line if the full name of the extension is. -/
theorem extensionName (hname : Text.OneLine fullName) {shorten : Bool} {property : String}
    (h : t.extensionName fullName shorten = .ok property) : Text.OneLine property := by
  obtain ⟨scope, hscope, h⟩ := Result.bind_eq_ok_iff.1 h
  obtain ⟨text, htext, h⟩ := Result.bind_eq_ok_iff.1 h
  cases h
  obtain ⟨s, rfl, hs⟩ := ht.extensionScope hscope
  cases htext
  exact Text.oneLine_append.2
    ⟨hs, Swift.oneLine_lowerCamel (hname.dropLeading '.').cutLast.2⟩

end OneLine

end NameTable

/-! ## Types of fields -/

/-- A stored type whose name and default value are texts of one line. -/
structure StoredType.OneLine (t : StoredType) : Prop where
  name : t.name.IsLine
  defaultValue : Text.OneLine t.defaultValue

namespace StoredType.OneLine

variable {stored : StoredType} (h : stored.OneLine)
include h

/-- The declaration of a stored property is one line. -/
theorem declaration {v : Json} (hv : stored.declaration = .ok v) : v.IsLine := by
  obtain ⟨⟨name, hname, hline⟩, -⟩ := h
  unfold StoredType.declaration at hv
  rw [hname] at hv
  split at hv
  · cases hv
    exact Json.isLine_str.2 hline
  · cases hv
    exact Json.isLine_str.2 (Text.oneLine_append.2 ⟨hline, by decide⟩)
  · cases hv
    rw [Json.isLine_str, Text.oneLine_append, Text.oneLine_append]
    exact ⟨⟨by decide, hline⟩, by decide⟩

/-- So is its initial value. -/
theorem initialValue : Text.OneLine stored.initialValue := by
  unfold StoredType.initialValue
  split
  · exact h.defaultValue
  · decide
  · decide

end StoredType.OneLine

/-- The types of Swift and of Foundation have names of one line. -/
theorem FieldType.oneLine_scalar {type : FieldType} {s : ScalarType} (h : type.scalar? = some s) :
    OneLine s.name ∧ OneLine s.defaultValue ∧ OneLine s.codec := by
  cases type <;> cases h <;> decide

/-- So is the word for the kind of a type. -/
theorem FieldType.oneLine_kindWord (type : FieldType) : OneLine type.kindWord := by
  cases type <;> decide

namespace NameTable.OneLine

variable {t : NameTable} (ht : t.OneLine)
include ht

/-- The stored type of a field is one line if the name of the type is. -/
theorem storedType {type : FieldType} {label : Label} {typeName : String}
    (hname : Text.OneLine typeName) {shorten : Bool} {stored : StoredType}
    (h : t.storedType type label typeName shorten = .ok stored) : stored.OneLine := by
  have hline := ht.typeName hname shorten
  unfold NameTable.storedType at h
  dsimp only at h
  split at h
  · next s hs =>
    cases h
    obtain ⟨hscalar, hdefault, -⟩ := FieldType.oneLine_scalar hs
    exact ⟨Json.isLine_str.2 hscalar, hdefault⟩
  · split at h
    · cases h
      exact ⟨hline, (by decide : Text.OneLine ".init()")⟩
    · obtain ⟨text, htext, h⟩ := Result.bind_eq_ok_iff.1 h
      cases h
      refine ⟨hline, Text.oneLine_append.2 ⟨?_, by decide⟩⟩
      obtain ⟨s, hs, hsLine⟩ := hline
      rw [hs] at htext
      cases htext
      exact hsLine

/-- The runtime library's wrapper for an extension is a text of one line. -/
theorem extensionFieldType {x : ExtensionField} (hx : x.OneLine) {shorten : Bool}
    {wrapper : String} (h : t.extensionFieldType x shorten = .ok wrapper) :
    Text.OneLine wrapper := by
  have hcardinality : Text.OneLine (if x.label = .repeated then "Repeated" else "Optional") := by
    split <;> decide
  have hruntime := ht.runtimePrefix
  unfold NameTable.extensionFieldType at h
  dsimp only at h
  split at h
  · next s hs =>
    cases h
    simp only [Text.oneLine_append, hruntime, hcardinality, (FieldType.oneLine_scalar hs).2.2,
      true_and, and_true]
    decide
  · obtain ⟨text, htext, h⟩ := Result.bind_eq_ok_iff.1 h
    cases h
    obtain ⟨s, hs, hline⟩ := ht.typeName hx.typeName shorten
    rw [hs] at htext
    cases htext
    simp only [Text.oneLine_append, hruntime, hcardinality, FieldType.oneLine_kindWord, true_and]
    exact ⟨⟨by decide, hline⟩, by decide⟩

/-- The name of the table of extensions has no character of the name of the file but letters, digits
and underscores. -/
theorem registryName : Text.OneLine (ExtensionSet.registryName t) := by
  have hnamed {name : String} (h : Text.OneLine name) :
      Text.OneLine (t.typePrefix.display ++ Swift.upperCamel name ++ "_Extensions") := by
    rw [Text.oneLine_append, Text.oneLine_append]
    exact ⟨⟨ht.typePrefix.display, Swift.oneLine_upperCamel h⟩, by decide⟩
  have hmarked {c : Prop} [Decidable c] {name : String} (h : Text.OneLine name) :
      Text.OneLine (if c then "_" ++ name else name) := by
    split
    · exact Text.oneLine_append.2 ⟨by decide, h⟩
    · exact h
  unfold ExtensionSet.registryName
  refine hmarked (hnamed ?_)
  rw [Text.OneLine, String.toList_ofList, List.mem_map]
  rintro ⟨point, -, heq⟩
  split at heq
  · split at heq
    · next hbare => exact absurd (heq ▸ hbare) (by decide)
    · cases heq
  · cases heq

end NameTable.OneLine

end SchemaToSwift
