import SchemaToSwift.Proofs.Schema.Decode
import SchemaToSwift.Proofs.Schema.Location
import SchemaToSwift.Proofs.Schema.Typed

/-!
# The shape of decoded files

Decoding checks that the name of a file and the types, labels and referenced names of fields are
strings. All other texts are taken over as they are given, so a file that is decoded has its
declared shape (`Schema.Typed`) only if its description gives a string for each of them: in the
declarations at any depth, in the tree of dependencies, and in those comments that end up in the
table of comments. `FileOfTexts` says so of the description, and `typed_iff_fileOfTexts` that it is
the exact condition.
-/

namespace SchemaToSwift.Schema

namespace Decode

/-! ## Descriptions of texts -/

/-- The member of an object. -/
def member? (key : String) : Json → Option Json
  | .obj members => members.lookup key
  | _ => none

/-- What the member of an object holds one after the other, if it holds anything. -/
def elementsAt (key : String) (v : Json) : List Json :=
  ((member? key v).getD (.arr [])).elements.toOption.getD []

/-- The member is a text, or it is not there. -/
def TextAt (key : String) (v : Json) : Prop := ∀ x ∈ member? key v, x.IsText

/-- A declaration whose name is a text, and its full name if it gives itself one. -/
structure NamedByTexts (v : Json) : Prop where
  name : TextAt "name" v
  fullName : ∀ x ∈ member? "full_name" v, x.truthy = true → x.IsText

/-- A field whose names are texts. -/
structure FieldOfTexts (v : Json) : Prop where
  name : TextAt "name" v
  jsonName : TextAt "json_name" v

/-- An enum whose names and those of its values are texts. -/
structure EnumOfTexts (v : Json) : Prop where
  named : NamedByTexts v
  values : ∀ x ∈ elementsAt "values" v, TextAt "name" x

/-- A message whose names are texts, and so are those of what is declared in it at any depth. -/
inductive MessageOfTexts : Json → Prop
  | intro {v : Json} (named : NamedByTexts v)
    (fields : ∀ x ∈ elementsAt "fields" v, FieldOfTexts x)
    (messages : ∀ x ∈ elementsAt "messages" v, MessageOfTexts x)
    (enums : ∀ x ∈ elementsAt "enums" v, EnumOfTexts x)
    (extensions : ∀ x ∈ elementsAt "extensions" v, NamedByTexts x) : MessageOfTexts v

/-- A dependency whose name is a text, and so are those of all that it makes visible. -/
inductive DependencyOfTexts : Json → Prop
  | intro {v : Json} (name : TextAt "name" v)
    (reexports : ∀ x ∈ elementsAt "public_dependencies" v, DependencyOfTexts x) :
    DependencyOfTexts v

/-- Comments that are texts. -/
structure CommentsOfTexts (v : Json) : Prop where
  leading : TextAt "leading_comments" v
  trailing : TextAt "trailing_comments" v
  detached : ∀ x ∈ elementsAt "leading_detached_comments" v, x.IsText

/-- Whether the comments have a path. -/
def isAtPath (path : List Json) (v : Json) : Bool := Json.sameItems (elementsAt "path" v) path

/-- Locations of which, for each path, the first one has a path of integers and the last one has
comments that are texts. -/
structure LocationsOfTexts (locations : List Json) : Prop where
  paths : ∀ v ∈ locations, ∀ first ∈ locations.find? (isAtPath (elementsAt "path" v)),
    ∀ x ∈ elementsAt "path" first, ∃ n, x = .int n
  comments : ∀ v ∈ locations, ∀ last ∈ locations.reverse.find? (isAtPath (elementsAt "path" v)),
    CommentsOfTexts last

/-- A description that gives a string wherever a text is taken over. -/
structure FileOfTexts (v : Json) : Prop where
  package : TextAt "package" v
  dialect : TextAt "syntax" v
  edition : TextAt "edition" v
  swiftPrefix : ∀ options ∈ member? "options" v, TextAt "swift_prefix" options
  enums : ∀ x ∈ elementsAt "enums" v, EnumOfTexts x
  messages : ∀ x ∈ elementsAt "messages" v, MessageOfTexts x
  extensions : ∀ x ∈ elementsAt "extensions" v, NamedByTexts x
  dependencies : ∀ x ∈ elementsAt "dependencies" v, DependencyOfTexts x
  locations : LocationsOfTexts (elementsAt "source_locations" v)

/-! ## Members -/

section
variable {v x : Json} {key : String} {members : List (String × Json)}

/-- A member that is required and had is a member. -/
theorem member?_of_require {place : SchemaPlace} (h : require v key place = .ok x) :
    member? key v = some x := by
  obtain ⟨members, rfl, hlookup⟩ := require_eq_ok_iff.1 h
  exact hlookup

/-- What counts as absent has no members. -/
theorem member?_of_falsy (h : ¬ v.truthy = true) (key : String) : member? key v = none := by
  cases v with
  | obj members =>
    cases members with
    | nil => rfl
    | cons => exact absurd rfl h
  | _ => rfl

/-- A member that is there is a text if it is one. -/
theorem textAt_iff (h : member? key v = some x) : TextAt key v ↔ x.IsText := by
  simp [TextAt, h]

/-- A member that defaults to a text. -/
theorem textAt_iff_memberOr (key s : String) (members : List (String × Json)) :
    TextAt key (.obj members) ↔ (memberOr key (.str s) members).IsText := by
  rw [TextAt, member?, memberOr]
  cases members.lookup key <;> simp [Json.isText_str]

/-- What is decoded of the elements of a member is what the member holds. -/
theorem elementsAt_eq {items : List Json} (h : elementsOf key members = .ok items) :
    elementsAt key (.obj members) = items := by
  have helements := Failure.escape_eq_ok h
  rw [memberOr] at helements
  rw [elementsAt, member?, helements]
  rfl

/-- A property of what is decoded from the elements of a member is one of the elements. -/
theorem forall_decoded {α : Type} {f : Json → Decode α} {items : List Json} {xs : List α}
    {P : Json → Prop} {Q : α → Prop} (hitems : elementsOf key members = .ok items)
    (hxs : items.mapM f = .ok xs) (h : ∀ v x, f v = .ok x → (Q x ↔ P v)) :
    (∀ x ∈ xs, Q x) ↔ ∀ v ∈ elementsAt key (.obj members), P v := by
  rw [elementsAt_eq hitems]
  rw [Result.mapM_ok_iff] at hxs
  clear hitems
  induction hxs with
  | nil => simp
  | cons hx _ ih => rw [List.forall_mem_cons, List.forall_mem_cons, h _ _ hx, ih]

end

/-! ## Declarations -/

section
variable {v : Json}

/-- A full name is a text if the name is one, unless the declaration gives itself another. -/
theorem named_iff (scope : Json) {name : Json} {members : List (String × Json)}
    (hname : members.lookup "name" = some name) :
    name.IsText ∧ (fullName members scope name).IsText ↔ NamedByTexts (.obj members) := by
  have hgiven : name.IsText → ((fullName members scope name).IsText ↔
      ∀ x ∈ member? "full_name" (.obj members), x.truthy = true → x.IsText) := by
    intro htext
    have hqualified : (qualify scope name).IsText := by
      unfold qualify
      split
      · exact Json.isText_str _
      · exact htext
    rw [fullName, member?, memberOr]
    cases members.lookup "full_name" with
    | none => simpa [Json.truthy] using hqualified
    | some given =>
      simp only [Option.getD_some, Option.mem_some_iff, forall_eq']
      split
      · next htruthy => simp [htruthy]
      · next hfalsy => exact iff_of_true hqualified fun htruthy => absurd htruthy hfalsy
  have htextAt : TextAt "name" (.obj members) ↔ name.IsText := textAt_iff hname
  constructor
  · rintro ⟨hname, hfull⟩
    exact ⟨htextAt.2 hname, (hgiven hname).1 hfull⟩
  · rintro ⟨hname, hfull⟩
    have htext := htextAt.1 hname
    exact ⟨htext, (hgiven htext).2 hfull⟩

/-- A decoded field has texts for names exactly if its description gives texts. -/
theorem field_typed_iff {message : Json} {f : Field} (h : field message v = .ok f) :
    f.Typed ↔ FieldOfTexts v := by
  obtain ⟨name, hname, h⟩ := Result.bind_eq_ok_iff.1 h
  obtain ⟨members, hmembers, h⟩ := Result.bind_eq_ok_iff.1 h
  simp only [Result.bind_eq_ok_iff] at h
  obtain ⟨_, -, number, -, _, -, type, -, label, -, typeName, -, h⟩ := h
  cases h
  obtain rfl := membersOf_eq_ok_iff.1 hmembers
  have htextAt := textAt_iff (member?_of_require hname)
  have hjson := textAt_iff_memberOr "json_name" "" members
  exact ⟨fun ⟨hn, hj⟩ => ⟨htextAt.2 hn, hjson.2 hj⟩, fun ⟨hn, hj⟩ => ⟨htextAt.1 hn, hjson.1 hj⟩⟩

/-- So has a decoded enum, with its values. -/
theorem enumType_typed_iff {scope : Json} {e : EnumType} (h : enumType scope v = .ok e) :
    e.Typed ↔ EnumOfTexts v := by
  obtain ⟨name, hname, h⟩ := Result.bind_eq_ok_iff.1 h
  obtain ⟨members, hmembers, h⟩ := Result.bind_eq_ok_iff.1 h
  obtain ⟨items, hitems, h⟩ := Result.bind_eq_ok_iff.1 h
  obtain ⟨values, hvalues, h⟩ := Result.bind_eq_ok_iff.1 h
  cases h
  obtain rfl := membersOf_eq_ok_iff.1 hmembers
  have hnamed := named_iff scope (member?_of_require hname)
  have hall : (∀ x ∈ values, x.name.IsText) ↔
      ∀ x ∈ elementsAt "values" (.obj members), TextAt "name" x :=
    forall_decoded hitems hvalues fun x value h => by
      obtain ⟨_, hx, h⟩ := Result.bind_eq_ok_iff.1 h
      obtain ⟨_, -, h⟩ := Result.bind_eq_ok_iff.1 h
      obtain ⟨_, -, h⟩ := Result.bind_eq_ok_iff.1 h
      cases h
      exact (textAt_iff (member?_of_require hx)).symm
  exact ⟨fun ⟨hn, hf, hv⟩ => ⟨hnamed.1 ⟨hn, hf⟩, hall.1 hv⟩, fun ⟨hn, hv⟩ =>
    ⟨(hnamed.2 hn).1, (hnamed.2 hn).2, hall.2 hv⟩⟩

/-- So has a decoded extension. -/
theorem extensionField_typed_iff {scope : Json} {x : ExtensionField}
    (h : extensionField scope v = .ok x) : x.Typed ↔ NamedByTexts v := by
  obtain ⟨name, hname, h⟩ := Result.bind_eq_ok_iff.1 h
  obtain ⟨members, hmembers, h⟩ := Result.bind_eq_ok_iff.1 h
  simp only [Result.bind_eq_ok_iff] at h
  obtain ⟨_, -, number, -, _, -, type, -, _, -, extendee, -, label, -, typeName, -, h⟩ := h
  cases h
  obtain rfl := membersOf_eq_ok_iff.1 hmembers
  have hnamed := named_iff scope (member?_of_require hname)
  exact ⟨fun ⟨hn, hf⟩ => hnamed.1 ⟨hn, hf⟩, fun hn => ⟨(hnamed.2 hn).1, (hnamed.2 hn).2⟩⟩

end

/-! ## Trees -/

mutual

/-- A message is typed with all that is nested in it if its description is one of texts. -/
theorem subtree_typed_iff : ∀ {m : MessageType} {fuel : Nat} {scope v : Json},
    messageType fuel scope v = .ok m → ((∀ n ∈ m.subtree, n.Typed) ↔ MessageOfTexts v)
  | _, 0, _, _, h => by cases h
  | ⟨name, full, fields, messages, enums, extensions⟩, fuel + 1, scope, v, h => by
    rw [messageType] at h
    obtain ⟨_, hname, h⟩ := Result.bind_eq_ok_iff.1 h
    obtain ⟨members, hmembers, h⟩ := Result.bind_eq_ok_iff.1 h
    simp only [Result.bind_eq_ok_iff] at h
    obtain ⟨fieldItems, hfieldItems, _, hfields, messageItems, hmessageItems, _, hmessages,
      enumItems, henumItems, _, henums, extensionItems, hextensionItems, _, hextensions, h⟩ := h
    cases h
    obtain rfl := membersOf_eq_ok_iff.1 hmembers
    have hnamed := named_iff scope (member?_of_require hname)
    have hfields := forall_decoded hfieldItems hfields fun _ _ => field_typed_iff
    have henums := forall_decoded henumItems henums fun _ _ => enumType_typed_iff
    have hextensions := forall_decoded hextensionItems hextensions fun _ _ =>
      extensionField_typed_iff
    have hmessages := subtrees_typed_iff (Result.mapM_ok_iff.1 hmessages)
    rw [← elementsAt_eq hmessageItems] at hmessages
    rw [MessageType.forall_mem_subtree, hmessages]
    constructor
    · rintro ⟨⟨hn, hf, hfs, hes, hxs⟩, hms⟩
      exact ⟨hnamed.1 ⟨hn, hf⟩, hfields.1 hfs, hms, henums.1 hes, hextensions.1 hxs⟩
    · rintro ⟨hn, hfs, hms, hes, hxs⟩
      obtain ⟨hn, hf⟩ := hnamed.2 hn
      exact ⟨⟨hn, hf, hfields.2 hfs, henums.2 hes, hextensions.2 hxs⟩, hms⟩

/-- So have decoded messages with all that is nested in them; the induction goes along the list, and
along the messages of each. -/
theorem subtrees_typed_iff : ∀ {ms : List MessageType} {fuel : Nat} {scope : Json}
    {items : List Json}, List.Forall₂ (fun v m => messageType fuel scope v = .ok m) items ms →
      ((∀ n ∈ MessageType.subtrees ms, n.Typed) ↔ ∀ v ∈ items, MessageOfTexts v)
  | [], _, _, _, h => by
    cases h
    simp [MessageType.subtrees]
  | m :: ms, _, _, _, h => by
    cases h with
    | cons hm hms =>
      rw [MessageType.forall_mem_subtrees_cons, List.forall_mem_cons, subtree_typed_iff hm,
        subtrees_typed_iff hms]

end

mutual

/-- A dependency has names that are texts, with all that it makes visible, if its description is one
of texts. -/
theorem dependency_texts_iff : ∀ {d : Dependency} {fuel : Nat} {v : Json},
    dependency fuel v = .ok d → ((∀ e ∈ d.subtree, e.name.IsText) ↔ DependencyOfTexts v)
  | _, 0, _, h => by cases h
  | ⟨name, isPublic, reexports⟩, fuel + 1, v, h => by
    unfold dependency at h
    split at h
    · cases h
    · next _ text _ =>
      cases h
      have hname : (Json.str text).IsText := Json.isText_str text
      have hof : DependencyOfTexts (.str text) := ⟨nofun, nofun⟩
      simp [Dependency.subtree, Dependency.subtrees, hname, hof]
    · obtain ⟨_, hname, h⟩ := Result.bind_eq_ok_iff.1 h
      obtain ⟨members, hmembers, h⟩ := Result.bind_eq_ok_iff.1 h
      obtain ⟨items, hitems, h⟩ := Result.bind_eq_ok_iff.1 h
      obtain ⟨_, hreexports, h⟩ := Result.bind_eq_ok_iff.1 h
      cases h
      obtain rfl := membersOf_eq_ok_iff.1 hmembers
      have hnamed := textAt_iff (member?_of_require hname)
      have hreexports := dependencies_texts_iff (Result.mapM_ok_iff.1 hreexports)
      rw [← elementsAt_eq hitems] at hreexports
      rw [Dependency.forall_mem_subtree, hreexports]
      exact ⟨fun ⟨hn, hds⟩ => ⟨hnamed.2 hn, hds⟩, fun ⟨hn, hds⟩ => ⟨hnamed.1 hn, hds⟩⟩

/-- So have decoded dependencies with all that they make visible. -/
theorem dependencies_texts_iff : ∀ {ds : List Dependency} {fuel : Nat} {items : List Json},
    List.Forall₂ (fun v d => dependency fuel v = .ok d) items ds →
      ((∀ e ∈ Dependency.subtrees ds, e.name.IsText) ↔ ∀ v ∈ items, DependencyOfTexts v)
  | [], _, _, h => by
    cases h
    simp [Dependency.subtrees]
  | d :: ds, _, _, h => by
    cases h with
    | cons hd hds =>
      rw [Dependency.forall_mem_subtrees_cons, List.forall_mem_cons, dependency_texts_iff hd,
        dependencies_texts_iff hds]

end

/-! ## Comments -/

/-- What is decoded of comments with a path. -/
def placeOf (v : Json) : Place := (elementsAt "path" v, {
  leading := (member? "leading_comments" v).getD (.str "")
  trailing := (member? "trailing_comments" v).getD (.str "")
  detached := elementsAt "leading_detached_comments" v })

/-- A structural path that is accepted is made of keys. -/
theorem isKey_of_mapM {items : List Json} {u : Unit}
    (h : (discard (Failure.escape (items.mapM Json.asKey)) : Decode Unit) = .ok u) :
    ∀ v ∈ items, v.isKey = true := by
  intro v hv
  cases hkeys : items.mapM Json.asKey with
  | error fault =>
    rw [hkeys] at h
    cases h
  | ok keys =>
    obtain ⟨key, hkey⟩ := Result.ok_of_mem_mapM hkeys hv
    unfold Json.asKey at hkey
    split at hkey
    · assumption
    · cases hkey

/-- Comments are taken over as they are given, at a path of keys. -/
theorem placedComments_eq {v : Json} {x : Place} (h : placedComments v = .ok x) :
    x = placeOf v ∧ x.Keyed := by
  unfold placedComments at h
  split at h
  · split at h
    · cases h
    · next members _ path hpath =>
      obtain ⟨items, hitems, h⟩ := Result.bind_eq_ok_iff.1 h
      obtain ⟨detached, hdetached, h⟩ := Result.bind_eq_ok_iff.1 h
      obtain ⟨_, hkeys, h⟩ := Result.bind_eq_ok_iff.1 h
      cases h
      have hpathAt : elementsOf "path" members = .ok items := by
        rw [elementsOf, memberOr, hpath]
        exact hitems
      refine ⟨?_, isKey_of_mapM hkeys⟩
      rw [placeOf, elementsAt_eq hpathAt, elementsAt_eq hdetached]
      rfl
  · cases h

/-- Decoded comments are texts exactly if their description gives texts. -/
theorem comments_typed_iff (v : Json) : (placeOf v).2.Typed ↔ CommentsOfTexts v := by
  have htext (key : String) : TextAt key v ↔ ((member? key v).getD (.str "")).IsText := by
    rw [TextAt]
    cases member? key v <;> simp [Json.isText_str]
  exact ⟨fun ⟨hl, ht, hd⟩ => ⟨(htext _).2 hl, (htext _).2 ht, hd⟩,
    fun ⟨hl, ht, hd⟩ => ⟨(htext _).1 hl, (htext _).1 ht, hd⟩⟩

/-- Comments are decoded one by one, and all paths are made of keys. -/
theorem places_eq {locations : List Json} {places : List Place}
    (h : locations.mapM placedComments = .ok places) :
    places = locations.map placeOf ∧ ∀ x ∈ places, x.Keyed := by
  rw [Result.mapM_ok_iff] at h
  induction h with
  | nil => exact ⟨rfl, nofun⟩
  | cons hx _ ih =>
    obtain ⟨rfl, hkeyed⟩ := placedComments_eq hx
    obtain ⟨rfl, hrest⟩ := ih
    exact ⟨rfl, List.forall_mem_cons.2 ⟨hkeyed, hrest⟩⟩

/-- The table of comments has integers and texts if those locations do that end up in it. -/
theorem placed_typed_iff {locations : List Json} {places : List Place}
    (h : locations.mapM placedComments = .ok places) :
    (∀ e ∈ placed places, (∀ x ∈ e.1, ∃ n, x = .int n) ∧ e.2.Typed) ↔
      LocationsOfTexts locations := by
  obtain ⟨rfl, hkeyed⟩ := places_eq h
  have hfound {P : Place → Prop} (o : Option Json) :
      (∀ x ∈ o.map placeOf, P x) ↔ ∀ v ∈ o, P (placeOf v) := by
    cases o <;> simp
  have hpath (path : List Json) : Place.isAt path ∘ placeOf = isAtPath path := rfl
  have htable := forall_mem_placed (P := fun path => ∀ x ∈ path, ∃ n, x = .int n)
    (Q := Comments.Typed) hkeyed
  rw [htable, List.forall_mem_map]
  simp only [List.find?_map, ← List.map_reverse, hfound, hpath, comments_typed_iff]
  exact ⟨fun hall => ⟨fun v hv => (hall v hv).1, fun v hv => (hall v hv).2⟩,
    fun ⟨hpaths, hcomments⟩ v hv => ⟨hpaths v hv, hcomments v hv⟩⟩

end Decode

/-! ## Files -/

open Decode

/-- A description that is decoded names a file, and its members are decoded. -/
theorem exists_of_ofJson {v : Json} {file : Schema} (h : ofJson v = .ok file) :
    ∃ name members fuel, Names v name members ∧ ofMembers name members fuel = .ok file := by
  obtain ⟨name, members, hnames⟩ | ⟨-, herror | herror⟩ := ofJson_cases v
  · rw [ofJson_of_names hnames] at h
    split at h
    · next hmembers =>
      cases h
      exact ⟨name, members, _, hnames, hmembers⟩
    all_goals cases h
  · rw [herror] at h
    cases h
  · rw [herror] at h
    cases h

/-- The members of the options, none if there are no options. -/
def optionsOf (members : List (String × Json)) : Decode (List (String × Json)) :=
  let options := memberOr "options" .null members
  if options.truthy then membersOf options else pure []

/-- The options that are decoded are members, and the rest is decoded with them. -/
theorem exists_of_options {members : List (String × Json)}
    {next : List (String × Json) → Decode Schema} {file : Schema}
    (h : (do
        let options := memberOr "options" .null members
        let options ← if options.truthy then membersOf options else pure []
        next options) = .ok file) : ∃ options, optionsOf members = .ok options ∧
      next options = .ok file := by
  dsimp only at h
  unfold optionsOf
  split at h
  · next htruthy =>
    rw [if_pos htruthy]
    exact Result.bind_eq_ok_iff.1 h
  · next hfalsy =>
    rw [if_neg hfalsy]
    exact ⟨[], rfl, h⟩

/-- The prefix that a file asks for is a text if its options give one or none. -/
theorem swiftPrefix_isText_iff {members options : List (String × Json)}
    (h : optionsOf members = .ok options) :
    (memberOr "swift_prefix" (.str "") options).IsText ↔
      ∀ x ∈ member? "options" (.obj members), TextAt "swift_prefix" x := by
  rw [optionsOf, memberOr] at h
  rw [member?]
  cases hlookup : members.lookup "options" with
  | none =>
    rw [hlookup] at h
    cases h
    exact iff_of_true (Json.isText_str "") nofun
  | some x =>
    rw [hlookup, Option.getD_some] at h
    rw [← textAt_iff_memberOr]
    simp only [Option.mem_some_iff, forall_eq']
    split at h
    · obtain rfl := membersOf_eq_ok_iff.1 h
      rfl
    · next hfalsy =>
      cases h
      have hnone : member? "swift_prefix" x = none := member?_of_falsy hfalsy _
      exact iff_of_true nofun (by simp [TextAt, hnone])

/-- A file that is decoded has a name. It has its declared shape throughout exactly if its
description gives a string wherever a text is taken over as it is given, and integers in the paths
of the table of comments. -/
theorem typed_iff_fileOfTexts {v : Json} {file : Schema} (h : ofJson v = .ok file) :
    file.name ≠ "" ∧ (file.Typed ↔ FileOfTexts v) := by
  obtain ⟨name, members, fuel, ⟨rfl, -, hne⟩, hfile⟩ := exists_of_ofJson h
  unfold ofMembers at hfile
  obtain ⟨options, hoptions, hfile⟩ := exists_of_options hfile
  simp only [Result.bind_eq_ok_iff] at hfile
  obtain ⟨enumItems, henumItems, _, henums, messageItems, hmessageItems, _, hmessages,
    extensionItems, hextensionItems, _, hextensions, dependencyItems, hdependencyItems, _,
    hdependencies, locations, hlocations, places, hplaces, hfile⟩ := hfile
  cases hfile
  have hpackage := textAt_iff_memberOr "package" "" members
  have hdialect := textAt_iff_memberOr "syntax" "proto3" members
  have hedition := textAt_iff_memberOr "edition" "" members
  have hprefix := swiftPrefix_isText_iff hoptions
  have henums := forall_decoded henumItems henums fun _ _ => enumType_typed_iff
  have hextensions := forall_decoded hextensionItems hextensions fun _ _ =>
    extensionField_typed_iff
  have hmessages := subtrees_typed_iff (Result.mapM_ok_iff.1 hmessages)
  rw [← elementsAt_eq hmessageItems] at hmessages
  have hdependencies := dependencies_texts_iff (Result.mapM_ok_iff.1 hdependencies)
  rw [← elementsAt_eq hdependencyItems] at hdependencies
  have hcomments := placed_typed_iff hplaces
  rw [← elementsAt_eq hlocations] at hcomments
  refine ⟨hne, fun h => ?_, fun h => ?_⟩
  · exact ⟨hpackage.2 h.package, hdialect.2 h.dialect, hedition.2 h.edition,
      hprefix.1 h.swiftPrefix, henums.1 h.enums, hmessages.1 h.messages,
      hextensions.1 h.extensions, hdependencies.1 h.dependencies, hcomments.1 h.comments⟩
  · exact ⟨hpackage.1 h.package, hdialect.1 h.dialect, hedition.1 h.edition,
      hprefix.2 h.swiftPrefix, henums.2 h.enums, hmessages.2 h.messages,
      hextensions.2 h.extensions, hdependencies.2 h.dependencies, hcomments.2 h.locations⟩

/-- A description whose package is a number. -/
def numberedPackage : Json := .obj [("name", .str "a.proto"), ("package", .int 5)]

/-- It is decoded all the same, and the file has a number for its package. -/
theorem typed_iff_fileOfTexts_numbered : ∃ file, ofJson numberedPackage = .ok file ∧
    file.package = .int 5 ∧ ¬ FileOfTexts numberedPackage ∧ ¬ file.Typed := by
  have hfile : ofJson numberedPackage = .ok { blank "a.proto" with package := .int 5 } := rfl
  have hnot : ¬ FileOfTexts numberedPackage := fun h => by
    obtain ⟨_, htext⟩ := h.package _ rfl
    cases htext
  exact ⟨_, hfile, rfl, hnot, fun h => hnot ((typed_iff_fileOfTexts hfile).2.1 h)⟩

end SchemaToSwift.Schema
