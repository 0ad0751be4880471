import SchemaToSwift.Proofs.Names.Path
import SchemaToSwift.Proofs.Swift.Components
import SchemaToSwift.Proofs.Swift.TypePrefix

/-!
# Full names read as paths

Every full name is read as a prefix and a path, of which its Swift name is made
(`NameTable.typeName_eq`): the full name of a declaration as the prefix of the file and the path of
the declaration, any other as the prefix of a package and the names after it. A file is `Qualified`
if the full name of each declaration is the package and the path, put together; then no full name
stands for two paths, and every declaration is read as its own path (`Schema.Qualified.reading`).
-/

namespace SchemaToSwift

/-! ## The Swift name at a path -/

/-- The Swift name of a declaration at a path. -/
def SwiftName.ofPath (typePrefix : String) (path : List String) : SwiftName :=
  ⟨.str (Swift.typeText typePrefix path), .str (Swift.typeText "" path)⟩

/-- The short name of a path is the one without the prefix. -/
theorem SwiftName.pick_ofPath (typePrefix : String) (path : List String) (shorten : Bool) :
    (ofPath typePrefix path).pick shorten =
      .str (Swift.typeText (if shorten then "" else typePrefix) path) := by
  cases shorten <;> rfl

namespace NameTable

/-- What declarations in a scope are named after: the prefix at the top of a file, else the message
around them. -/
def parentAt (typePrefix : String) (scope : List String) : Except Json SwiftName :=
  if scope = [] then .error (.str typePrefix) else .ok (.ofPath typePrefix scope)

/-- What is nested is named after the path that it stands in. -/
theorem parentAt_concat (typePrefix : String) (scope : List String) (name : String) :
    parentAt typePrefix (scope ++ [name]) = .ok (.ofPath typePrefix (scope ++ [name])) :=
  if_neg (by simp)

/-- A name in a scope gives the Swift name at the path that it makes with the scope. -/
theorem nameIn_parentAt (typePrefix : String) (scope : List String) (name : String) :
    nameIn (parentAt typePrefix scope) (.str name) =
      .ok (.ofPath typePrefix (scope ++ [name])) := by
  unfold parentAt
  split
  · next hscope =>
    rw [hscope, List.nil_append, SwiftName.ofPath, Swift.typeText_singleton,
      Swift.typeText_singleton, String.empty_append]
    rfl
  · next hscope =>
    rw [SwiftName.ofPath, SwiftName.ofPath, Swift.typeText_concat typePrefix hscope,
      Swift.typeText_concat "" hscope]
    rfl

/-! ## The entries of a file -/

/-- The entry of a declaration at a path. -/
def entryAt (typePrefix : String) (declared : Json × List String) : String × SwiftName :=
  (declared.1.display, .ofPath typePrefix declared.2)

/-- A declared name has the entry of its path. -/
theorem entry_eq {fullName : Json} (h : fullName.IsText) (typePrefix : String)
    (path : List String) :
    entry fullName (.ofPath typePrefix path) = .ok [entryAt typePrefix (fullName, path)] := by
  obtain ⟨s, rfl⟩ := h
  rfl

/-- So has the name of an enum, in any scope. -/
theorem enumEntry_eq {e : EnumType} (he : e.Identified) (typePrefix : String)
    (scope : List String) : enumEntry (parentAt typePrefix scope) e =
      .ok [entryAt typePrefix (e.fullName, scope ++ [e.name.display])] := by
  rw [enumEntry, he.name.isText.eq_str, nameIn_parentAt, Result.bind_ok, entry_eq he.fullName]
  rfl

/-- So have those of several enums. -/
theorem enumEntries_eq (typePrefix : String) (scope : List String) :
    ∀ {enums : List EnumType}, (∀ e ∈ enums, e.Identified) →
      enums.mapM (enumEntry (parentAt typePrefix scope)) =
        .ok (enums.map fun e => [entryAt typePrefix (e.fullName, scope ++ [e.name.display])])
  | [], _ => rfl
  | e :: enums, h => by
    rw [List.mapM_cons, enumEntry_eq (h e (.head _)), Result.bind_ok,
      enumEntries_eq typePrefix scope fun x hx => h x (.tail _ hx)]
    rfl

theorem flatten_enumEntries (typePrefix : String) (scope : List String) (enums : List EnumType) :
    (enums.map fun e => [entryAt typePrefix (e.fullName, scope ++ [e.name.display])]).flatten =
      (enums.map fun e => (e.fullName, scope ++ [e.name.display])).map (entryAt typePrefix) := by
  rw [← List.flatMap_def, ← List.map_eq_flatMap, List.map_map]
  rfl

mutual

/-- The entries of a message are those of all that is declared in it, at their paths. -/
theorem messageEntries_eq (typePrefix : String) (scope : List String) : ∀ {m : MessageType},
    (∀ n ∈ m.subtree, n.Identified) → messageEntries (parentAt typePrefix scope) m =
      .ok (((m.placed scope).flatMap fun p => p.2.typePaths p.1).map (entryAt typePrefix))
  | ⟨name, fullName, fields, messages, enums, extensions⟩, h => by
    obtain ⟨hm, hnested⟩ := MessageType.forall_mem_subtree.1 h
    have hname : name = .str name.display := hm.name.isText.eq_str
    have hparent : nameIn (parentAt typePrefix scope) name =
        .ok (.ofPath typePrefix (scope ++ [name.display])) := by
      rw [hname]
      exact nameIn_parentAt typePrefix scope name.display
    rw [messageEntries, hparent, Result.bind_ok, entry_eq hm.fullName, Result.bind_ok,
      ← parentAt_concat, enumEntries_eq _ _ hm.enums, Result.bind_ok,
      messagesEntries_eq _ _ hnested, Result.bind_ok, flatten_enumEntries, MessageType.placed]
    simp [MessageType.typePaths]

/-- The entries of messages are those of all that is declared in them, at their paths. -/
theorem messagesEntries_eq (typePrefix : String) (scope : List String) :
    ∀ {ms : List MessageType}, (∀ n ∈ MessageType.subtrees ms, n.Identified) →
      messagesEntries (parentAt typePrefix scope) ms =
        .ok (((MessageType.placedAll scope ms).flatMap fun p => p.2.typePaths p.1).map
          (entryAt typePrefix))
  | [], _ => by
    rw [messagesEntries]
    rfl
  | m :: ms, h => by
    obtain ⟨hm, hms⟩ := MessageType.forall_mem_subtrees_cons.1 h
    rw [messagesEntries, messageEntries_eq _ _ hm, Result.bind_ok, messagesEntries_eq _ _ hms,
      Result.bind_ok, MessageType.placedAll, List.flatMap_append, List.map_append]
    rfl

end

end NameTable

/-- The prefix of a file's top-level types. -/
def Schema.typePrefix (f : Schema) : String :=
  Swift.typePrefix f.package.display f.swiftPrefix.display

/-- The table of a file of identifiers has the Swift name at the path of each declaration. -/
theorem NameTable.ofSchema_eq {file : Schema} (hf : file.Identified)
    (modules : List (Json × Json)) (runtimeModule : String) :
    ofSchema file modules runtimeModule = .ok ⟨file, modules, runtimeModule,
      .str file.typePrefix, file.typePaths.map (entryAt file.typePrefix)⟩ := by
  have hprefix : Swift.typePrefixOf file.package file.swiftPrefix =
      .ok (.str file.typePrefix) := by
    rw [hf.package.eq_str, hf.swiftPrefix.eq_str]
    exact typePrefixOf_str _ _
  have hparent : (.error (.str file.typePrefix) : Except Json SwiftName) =
      parentAt file.typePrefix [] := rfl
  rw [ofSchema, hprefix, Result.bind_ok, hparent, enumEntries_eq _ _ hf.enums, Result.bind_ok,
    messagesEntries_eq _ _ hf.messages, Result.bind_ok, flatten_enumEntries, ← List.map_append]
  rfl

/-! ## Readings -/

/-- A name that begins with a lower-case letter. -/
def beginsLower (name : String) : Bool := name.toList.head?.any Text.isLower

namespace NameTable

/-- The prefix of a package and the names after it, as a full name suggests them. -/
def foreignReading (fullName : String) : String × List String :=
  let (package, names) := splitPackage (Text.parts '.' fullName)
  (Swift.packagePrefix (".".intercalate package), names)

/-- A package and the names after it make up the whole, and there is a name. -/
theorem splitPackage_eq {parts : List String} (h : parts ≠ []) :
    (splitPackage parts).1 ++ (splitPackage parts).2 = parts ∧ (splitPackage parts).2 ≠ [] ∧
      ∀ part ∈ (splitPackage parts).1, beginsLower part = true := by
  fun_induction splitPackage parts with
  | case1 => exact absurd rfl h
  | case2 last => simp
  | case3 part rest hrest hlower package names hsplit ih =>
    rw [hsplit] at ih
    obtain ⟨happend, hne, hpackage⟩ := ih hrest
    exact ⟨by rw [List.cons_append, happend], hne, List.forall_mem_cons.2 ⟨hlower, hpackage⟩⟩
  | case4 part rest hrest hupper => simp

theorem foreignReading_def (fullName : String) : foreignReading fullName =
    (Swift.packagePrefix (".".intercalate (splitPackage (Text.parts '.' fullName)).1),
      (splitPackage (Text.parts '.' fullName)).2) := rfl

/-- A name that a file does not declare is the type name at its own reading. -/
theorem foreignName_eq (fullName : String) (shorten : Bool) :
    foreignName fullName shorten =
      Swift.typeText (if shorten then "" else (foreignReading fullName).1)
        (foreignReading fullName).2 := by
  have hparts : Text.parts '.' fullName ≠ [] := by simp [Text.parts, Text.splitAt_ne_nil]
  have hnames : (foreignReading fullName).2 ≠ [] := (splitPackage_eq hparts).2.1
  rw [Swift.typeText_eq_append _ hnames]
  rfl

end NameTable

namespace Schema

/-- The prefix and the path that the Swift name of a type is made of. Of declarations with one full
name the last counts. -/
def reading (f : Schema) (fullName : String) : String × List String :=
  match f.typePaths.reverse.find? (·.1.display == fullName) with
  | some declared => (f.typePrefix, declared.2)
  | none => NameTable.foreignReading fullName

end Schema

namespace NameTable

/-- The first entry under a full name is that of the first declaration of this name. -/
theorem lookup_entries (typePrefix fullName : String) (declared : List (Json × List String)) :
    (declared.map (entryAt typePrefix)).lookup fullName =
      (declared.find? (·.1.display == fullName)).map fun d => .ofPath typePrefix d.2 := by
  induction declared with
  | nil => rfl
  | cons d rest ih =>
    rw [List.map_cons, entryAt, List.lookup_cons, List.find?_cons, ih, Bool.beq_comm]
    cases d.1.display == fullName <;> rfl

section
variable {file : Schema} (hf : file.Identified) {modules : List (Json × Json)}
  {runtimeModule : String} {t : NameTable} (ht : ofSchema file modules runtimeModule = .ok t)
include hf ht

/-- In the table of a file the last declaration of a name wins. -/
theorem declared?_eq (fullName : String) : t.declared? fullName =
    (file.typePaths.reverse.find? (·.1.display == fullName)).map fun d =>
      .ofPath file.typePrefix d.2 := by
  rw [ofSchema_eq hf] at ht
  cases ht
  rw [declared?, ← List.map_reverse, lookup_entries]

/-- A type that the file does not declare is read as its full name suggests. -/
theorem reading_of_unknown {fullName : String} (h : t.declared? fullName = none) :
    file.reading fullName = foreignReading fullName := by
  rw [declared?_eq hf ht, Option.map_eq_none_iff] at h
  rw [Schema.reading, h]

/-- The Swift name of a type is made of the prefix and the path that its full name is read as. -/
theorem typeName_eq (fullName : String) (shorten : Bool) :
    t.typeName fullName shorten =
      .str (Swift.typeText
        (if shorten then "" else (file.reading (Text.dropLeading '.' fullName)).1)
        (file.reading (Text.dropLeading '.' fullName)).2) := by
  rw [typeName, declared?_eq hf ht]
  unfold Schema.reading
  cases file.typePaths.reverse.find? (·.1.display == Text.dropLeading '.' fullName) with
  | some declared => exact SwiftName.pick_ofPath _ _ _
  | none => exact congrArg Json.str (foreignName_eq _ _)

end

end NameTable

/-! ## Qualified full names -/

namespace Schema

/-- A file in which the full name of each declaration is the package and the path of the
declaration, put together. -/
def Qualified (f : Schema) : Prop :=
  ∀ declared ∈ f.typePaths, declared.1 = .str (".".intercalate (f.scope ++ declared.2))

section
variable {f : Schema}

/-- The package is its components, put together. -/
theorem package_eq (f : Schema) : f.package.display = ".".intercalate f.scope := by
  unfold scope
  split
  · next hempty => rw [hempty, String.intercalate_nil]
  · exact (Text.intercalate_parts _).symm

/-- The prefix of a file is made of bare characters, if the one that the file asks for is. -/
theorem isBareChar_typePrefix (hf : f.Identified)
    (hgiven : f.swiftPrefix.display = "" ∨ Swift.isBare f.swiftPrefix.display = true) :
    ∀ c ∈ f.typePrefix.toList, Swift.isBareChar c = true := by
  intro c hc
  rw [typePrefix, Swift.typePrefix] at hc
  split at hc
  · rw [package_eq] at hc
    exact Swift.isBareChar_packagePrefix (Swift.isBareChar_of_mem_package hf.scope) c hc
  · next hasked => exact Swift.isBareChar_of_mem (hgiven.resolve_left hasked) hc

/-- The components of a qualified name are identifiers. -/
theorem isBare_of_mem_scope_path (hf : f.Identified) {declared : Json × List String}
    (h : declared ∈ f.typePaths) :
    f.scope ++ declared.2 ≠ [] ∧ ∀ part ∈ f.scope ++ declared.2, Swift.isBare part = true := by
  obtain ⟨hne, hpath⟩ := isBare_of_mem_typePaths hf h
  refine ⟨by simp [hne], fun part hpart => ?_⟩
  exact (List.mem_append.1 hpart).elim (hf.scope part) (hpath part)

/-- A dotted name of identifiers is what is left of it after any dots in front. -/
theorem dropLeading_dots_intercalate {parts : List String} (hne : parts ≠ [])
    (h : ∀ part ∈ parts, Swift.isBare part = true) (n : Nat) :
    Text.dropLeading '.' (String.ofList (List.replicate n '.') ++ ".".intercalate parts) =
      ".".intercalate parts := by
  obtain ⟨first, rest, rfl⟩ := List.exists_cons_of_ne_nil hne
  obtain ⟨c, cs, hfirst, hc, -⟩ := Swift.exists_cons_of_isBare (h first (.head _))
  obtain ⟨tail, hchars⟩ := Text.intercalate_eq_cons hfirst rest
  refine Text.dropLeading_dots ?_ n
  rw [hchars, List.head?_cons]
  rintro ⟨⟩
  cases hc

/-- Identifiers put together do not begin with a dot. -/
theorem dropLeading_intercalate {parts : List String} (hne : parts ≠ [])
    (h : ∀ part ∈ parts, Swift.isBare part = true) :
    Text.dropLeading '.' (".".intercalate parts) = ".".intercalate parts := by
  have hzero := dropLeading_dots_intercalate hne h 0
  simpa using hzero

/-- A qualified full name is what is left of it after any dots in front. -/
theorem Qualified.dropLeading_dots (hq : f.Qualified) (hf : f.Identified)
    {declared : Json × List String} (h : declared ∈ f.typePaths) (n : Nat) :
    Text.dropLeading '.' (String.ofList (List.replicate n '.') ++ declared.1.display) =
      declared.1.display := by
  obtain ⟨hne, hall⟩ := isBare_of_mem_scope_path hf h
  rw [hq declared h]
  exact dropLeading_dots_intercalate hne hall n

/-- So a full name of a file does not. -/
theorem Qualified.dropLeading_eq (hq : f.Qualified) (hf : f.Identified)
    {declared : Json × List String} (h : declared ∈ f.typePaths) :
    Text.dropLeading '.' declared.1.display = declared.1.display := by
  obtain ⟨hne, hall⟩ := isBare_of_mem_scope_path hf h
  rw [hq declared h]
  exact dropLeading_intercalate hne hall

/-- A qualified full name belongs to one path. -/
theorem Qualified.path_eq (hq : f.Qualified) (hf : f.Identified) {a b : Json × List String}
    (ha : a ∈ f.typePaths) (hb : b ∈ f.typePaths) (h : a.1 = b.1) : a.2 = b.2 := by
  have hjoined : ".".intercalate (f.scope ++ a.2) = ".".intercalate (f.scope ++ b.2) := by
    have hnames : Json.str _ = Json.str _ := (hq a ha).symm.trans (h.trans (hq b hb))
    exact Json.str.inj hnames
  obtain ⟨hnea, hbarea⟩ := isBare_of_mem_scope_path hf ha
  obtain ⟨hneb, hbareb⟩ := isBare_of_mem_scope_path hf hb
  have hparts : f.scope ++ a.2 = f.scope ++ b.2 :=
    Text.intercalate_inj hnea hneb
      (fun part hpart => Swift.not_mem_of_isBare (hbarea part hpart) rfl)
      (fun part hpart => Swift.not_mem_of_isBare (hbareb part hpart) rfl) hjoined
  exact List.append_cancel_left hparts

/-- What is found for the full name of a declaration stands at the path of the declaration. -/
theorem Qualified.exists_find? (hq : f.Qualified) (hf : f.Identified)
    {declared : Json × List String} (h : declared ∈ f.typePaths) :
    ∃ other, f.typePaths.reverse.find? (·.1.display == declared.1.display) = some other ∧
      other.2 = declared.2 := by
  cases hfind : f.typePaths.reverse.find? (·.1.display == declared.1.display) with
  | none =>
    have hnone := List.find?_eq_none.1 hfind declared (List.mem_reverse.2 h)
    simp at hnone
  | some other =>
    have hother : other ∈ f.typePaths := List.mem_reverse.1 (List.mem_of_find?_eq_some hfind)
    have hname : other.1.display = declared.1.display := by simpa using List.find?_some hfind
    have hsame : other.1 = declared.1 := by
      rw [hq other hother, hq declared h] at hname ⊢
      exact congrArg Json.str hname
    exact ⟨other, rfl, hq.path_eq hf hother h hsame⟩

/-- The full name of a declaration is read as the path of the declaration. -/
theorem Qualified.reading (hq : f.Qualified) (hf : f.Identified) {declared : Json × List String}
    (h : declared ∈ f.typePaths) :
    f.reading declared.1.display = (f.typePrefix, declared.2) := by
  obtain ⟨other, hfind, hpath⟩ := hq.exists_find? hf h
  unfold Schema.reading
  rw [hfind]
  dsimp only
  rw [hpath]

end

end Schema

section
variable {file : Schema} (hf : file.Identified) (hq : file.Qualified) {modules : List (Json × Json)}
  {runtimeModule : String} {t : NameTable}
  (ht : NameTable.ofSchema file modules runtimeModule = .ok t) {declared : Json × List String}
  (h : declared ∈ file.typePaths) (shorten : Bool)
include hf hq ht h

/-- What is registered for a declaration is the name at its path. -/
theorem NameTable.declared?_of_mem :
    t.declared? declared.1.display = some (.ofPath file.typePrefix declared.2) := by
  obtain ⟨other, hfind, hpath⟩ := hq.exists_find? hf h
  rw [declared?_eq hf ht, hfind, Option.map_some, hpath]

/-- The Swift name of a declaration is the one at its path. -/
theorem NameTable.typeName_of_mem : t.typeName declared.1.display shorten =
    .str (Swift.typeText (if shorten then "" else file.typePrefix) declared.2) := by
  rw [typeName_eq hf ht, hq.dropLeading_eq hf h, hq.reading hf h]

/-- A declared name has the type name of its path. -/
theorem NameTable.typeNameOf_of_mem : t.typeNameOf declared.1 shorten =
    .ok (.str (Swift.typeText (if shorten then "" else file.typePrefix) declared.2)) := by
  have htext : declared.1.IsText := ⟨_, hq declared h⟩
  rw [typeNameOf, htext.asText, Result.bind_ok, typeName_of_mem hf hq ht h]
  rfl

end

end SchemaToSwift
