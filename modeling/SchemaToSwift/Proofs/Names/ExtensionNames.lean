import Mathlib.Data.List.Basic
import SchemaToSwift.Proofs.Emit.Extension
import SchemaToSwift.Proofs.Names.Reading
import SchemaToSwift.Proofs.Swift.Letters

/-!
# Names of extensions

The name of an extension object and the property name of an extension are made of the names around
the extension with underscores between them (`NameTable.extensionScope_of_mem`). So two names are
the same exactly if they have the same words between underscores, wherever the underscores come
from (`Schema.extensionNames`). Where the names of messages have no underscores of their own, the
words tell the scopes apart; then objects are distinct, and so are the properties of extensions
whose letters differ.
-/

namespace SchemaToSwift

namespace Text

/-! ## Underscores between names -/

/-- The words of names joined with underscores are those of the names. -/
theorem parts_intercalate_underscore {names : List String} (hne : names ≠ []) :
    parts '_' ("_".intercalate names) = names.flatMap (parts '_') := by
  induction names with
  | nil => exact absurd rfl hne
  | cons name rest ih =>
    by_cases hrest : rest = []
    · simp [hrest]
    · have hchars : (name ++ "_" ++ "_".intercalate rest).toList =
          name.toList ++ '_' :: ("_".intercalate rest).toList := by simp
      rw [String.intercalate_cons_of_ne_nil hrest, List.flatMap_cons, ← ih hrest, parts, hchars,
        splitAt_append_cons, List.map_append]
      rfl

/-- Names without underscores are words themselves. -/
theorem flatMap_parts_of_not_mem {names : List String} (h : ∀ name ∈ names, '_' ∉ name.toList) :
    names.flatMap (parts '_') = names := by
  have hparts : ∀ name ∈ names, parts '_' name = [name] := fun name hname => by
    rw [parts, splitAt_of_not_mem (h name hname), List.map_singleton, String.ofList_toList]
  rw [List.flatMap_congr hparts]
  exact List.flatMap_singleton' names

/-- Names joined with underscores are the same exactly if they have the same words. -/
theorem intercalate_underscore_inj_iff {xs ys : List String} (hx : xs ≠ []) (hy : ys ≠ []) :
    "_".intercalate xs = "_".intercalate ys ↔
      xs.flatMap (parts '_') = ys.flatMap (parts '_') := by
  rw [← parts_intercalate_underscore hx, ← parts_intercalate_underscore hy]
  exact ⟨congrArg _, parts_inj⟩

/-- Dots turned into underscores. -/
theorem underscored_intercalate {names : List String} (h : ∀ name ∈ names, '.' ∉ name.toList) :
    String.ofList ((".".intercalate names).toList.map fun c => if c == '.' then '_' else c) =
      "_".intercalate names := by
  have hsame {name : String} (hname : '.' ∉ name.toList) :
      name.toList.map (fun c => if c == '.' then '_' else c) = name.toList := by
    refine (List.map_congr_left fun c hc => ?_).trans (List.map_id _)
    have hne : (c == '.') = false := by
      rw [beq_eq_false_iff_ne]
      rintro rfl
      exact hname hc
    rw [hne]
    rfl
  rw [← String.toList_inj, String.toList_ofList]
  induction names with
  | nil => rfl
  | cons name rest ih =>
    have hname := hsame (h name (.head _))
    by_cases hrest : rest = []
    · simpa [hrest] using hname
    · rw [String.intercalate_cons_of_ne_nil hrest, String.intercalate_cons_of_ne_nil hrest,
        String.toList_append, String.toList_append, List.map_append, List.map_append, hname,
        ih fun n hn => h n (.tail _ hn), String.toList_append, String.toList_append]
      rfl

end Text

/-- The prefix stands in front of all components. -/
theorem Swift.intercalate_components (typePrefix : String) {path : List String} (hne : path ≠ []) :
    "_".intercalate (components typePrefix path) =
      typePrefix ++ "_".intercalate (path.map quoteReserved) := by
  obtain ⟨top, rest, rfl⟩ := List.exists_cons_of_ne_nil hne
  rw [components, List.map_cons, String.intercalate_cons_append]

/-! ## Extensions at their paths -/

namespace Schema

variable (f : Schema)

/-- The extensions of a file, each with the path of the message it is declared in. -/
def placedExtensions : List (List String × ExtensionField) :=
  f.extensions.map (([], ·)) ++
    f.placedMessages.flatMap fun placed => placed.2.extensions.map (placed.1, ·)

/-- A file in which the name of each extension is an identifier, and its full name is the package,
the path of the message around it and the name, put together. -/
def ExtensionsQualified : Prop :=
  ∀ placed ∈ f.placedExtensions, placed.2.name.IsIdentifier ∧
    placed.2.fullName = .str (".".intercalate (f.scope ++ (placed.1 ++ [placed.2.name.display])))

/-- The names that the name of an extension object is made of. -/
def objectNames (placed : List String × ExtensionField) : List String :=
  placed.1.map Swift.quoteReserved ++ ["Extensions", placed.2.name.display]

/-- The names that the property name of an extension is made of. -/
def propertyNames (placed : List String × ExtensionField) : List String :=
  placed.1.map Swift.quoteReserved ++ [Swift.lowerCamel placed.2.name.display]

/-- The name of the object of an extension. -/
def objectName (placed : List String × ExtensionField) : String :=
  f.typePrefix ++ "_".intercalate (objectNames placed)

/-- The property name of an extension. -/
def extensionProperty (placed : List String × ExtensionField) : String :=
  f.typePrefix ++ "_".intercalate (propertyNames placed)

/-- What stands in front of the names of extensions at a path. -/
def scopeText (path : List String) : String :=
  if path = [] then f.typePrefix
  else f.typePrefix ++ "_".intercalate (path.map Swift.quoteReserved) ++ "_"

/-- A scope and more names are the prefix and all names, put together with underscores. -/
theorem scopeText_append (path : List String) {names : List String} (hne : names ≠ []) :
    f.scopeText path ++ "_".intercalate names =
      f.typePrefix ++ "_".intercalate (path.map Swift.quoteReserved ++ names) := by
  unfold scopeText
  split
  · next hpath => rw [hpath, List.map_nil, List.nil_append]
  · next hpath =>
    rw [String.intercalate_append_of_ne_nil (by simpa using hpath) hne]
    simp only [String.append_assoc]

section
variable {f : Schema}

/-- An extension is declared at the top of the file or in a message at its path. -/
theorem path_of_mem_placedExtensions {placed : List String × ExtensionField}
    (h : placed ∈ f.placedExtensions) : placed.1 = [] ∨ ∃ m, f.Declares placed.1 m := by
  rcases List.mem_append.1 h with h | h
  · obtain ⟨x, -, rfl⟩ := List.mem_map.1 h
    exact .inl rfl
  · obtain ⟨⟨path, m⟩, hm, h⟩ := List.mem_flatMap.1 h
    obtain ⟨x, -, rfl⟩ := List.mem_map.1 h
    exact .inr ⟨m, mem_placedMessages_iff.1 hm⟩

/-- All names of a path are identifiers. -/
theorem isBare_of_path (hf : f.Identified) {path : List String}
    (h : path = [] ∨ ∃ m, f.Declares path m) : ∀ name ∈ path, Swift.isBare name = true := by
  rcases h with rfl | ⟨m, hm⟩
  · exact nofun
  · exact hm.isBare hf

/-- The package is the full name of no declaration. -/
theorem Qualified.package_not_declared (hq : f.Qualified) (hf : f.Identified) :
    ".".intercalate f.scope ∉ f.declaredNames.map (·.display) := by
  intro h
  rw [← map_fst_typePaths, List.map_map] at h
  obtain ⟨declared, hmem, hname⟩ := List.mem_map.1 h
  obtain ⟨hne, hpath⟩ := isBare_of_mem_typePaths hf hmem
  obtain ⟨hall, hbare⟩ := isBare_of_mem_scope_path hf hmem
  have hname : ".".intercalate (f.scope ++ declared.2) = ".".intercalate f.scope := by
    rw [← hname, Function.comp_apply, hq declared hmem, Json.display_str]
  by_cases hscope : f.scope = []
  · obtain ⟨first, rest, hcons⟩ := List.exists_cons_of_ne_nil hne
    obtain ⟨c, cs, hfirst, -, -⟩ := Swift.exists_cons_of_isBare (hpath first (by simp [hcons]))
    obtain ⟨tail, htail⟩ := Text.intercalate_eq_cons hfirst rest
    rw [hscope, List.nil_append, String.intercalate_nil, hcons] at hname
    rw [hname] at htail
    cases htail
  · have hsame := Text.intercalate_inj hall hscope
      (fun part hpart => Swift.not_mem_of_isBare (hbare part hpart) rfl)
      (fun part hpart => Swift.not_mem_of_isBare (hf.scope part hpart) rfl) hname
    exact hne (List.append_right_eq_self.1 hsame)

end

end Schema

/-! ## Their names -/

namespace NameTable

/-- The table of a file of identifiers is one of a typed file. -/
theorem tableOf_of_identified {file : Schema} (hf : file.Identified)
    {modules : List (Json × Json)} {runtimeModule : String} {t : NameTable}
    (ht : ofSchema file modules runtimeModule = .ok t) : t.TableOf file := by
  rw [ofSchema_eq hf] at ht
  cases ht
  refine ⟨rfl, rfl, fun entry hentry => ?_, ?_⟩
  · obtain ⟨declared, -, rfl⟩ := List.mem_map.1 hentry
    exact ⟨⟨_, rfl⟩, ⟨_, rfl⟩⟩
  · rw [← Schema.map_fst_typePaths, List.map_map, List.map_map]
    rfl

section
variable {file : Schema} (hf : file.Identified) (hq : file.Qualified)
  (hgiven : file.swiftPrefix.display = "" ∨ Swift.isBare file.swiftPrefix.display = true)
  {modules : List (Json × Json)} {runtimeModule : String} {t : NameTable}
  (ht : ofSchema file modules runtimeModule = .ok t)
  {path : List String} (hpath : path = [] ∨ ∃ m, file.Declares path m)
include hf hq hgiven ht hpath

/-- What stands in front of the names of extensions at a path is made of the path. -/
theorem extensionScope_of_path {name : String} (hname : Swift.isBare name = true) :
    t.extensionScope (".".intercalate (file.scope ++ (path ++ [name]))) false =
      .ok (.str (file.scopeText path)) := by
  have hnames := Schema.isBare_of_path hf hpath
  have hall : ∀ part ∈ file.scope ++ (path ++ [name]), Swift.isBare part = true := by
    simp only [List.forall_mem_append, List.forall_mem_singleton]
    exact ⟨hf.scope, hnames, hname⟩
  rw [extensionScope, Schema.dropLeading_intercalate (by simp) hall, ← List.append_assoc,
    Text.scopeOf_concat (Swift.not_mem_of_isBare hname rfl)]
  rcases hpath with rfl | ⟨m, hm⟩
  · have hnone := ((tableOf_of_identified hf ht).declared?_eq_none _).2
      (hq.package_not_declared hf)
    rw [List.append_nil, hnone, (tableOf_of_identified hf ht).typePrefix_eq]
    rfl
  · have hmem := Schema.mem_typePaths_of_declares hm
    have hfound := declared?_of_mem hf hq ht hmem
    rw [hq _ hmem, Json.display_str] at hfound
    have hcomponents := Swift.not_mem_components (Schema.isBareChar_typePrefix hf hgiven)
      (c := '.') rfl (by decide) hnames
    rw [hfound]
    dsimp only
    rw [SwiftName.pick_ofPath, Json.asText_str, Result.bind_ok, if_neg (by simp), Swift.typeText,
      Text.underscored_intercalate hcomponents, Schema.scopeText, if_neg hm.ne_nil,
      Swift.intercalate_components _ hm.ne_nil]
    rfl

/-- The property name of an extension at a path is made of the path and the name. -/
theorem extensionName_of_path {name : String} (hname : Swift.isBare name = true) :
    t.extensionName (".".intercalate (file.scope ++ (path ++ [name]))) false =
      .ok (file.typePrefix ++
        "_".intercalate (path.map Swift.quoteReserved ++ [Swift.lowerCamel name])) := by
  have hall : ∀ part ∈ file.scope ++ (path ++ [name]), Swift.isBare part = true := by
    simp only [List.forall_mem_append, List.forall_mem_singleton]
    exact ⟨hf.scope, Schema.isBare_of_path hf hpath, hname⟩
  rw [extensionName, extensionScope_of_path hf hq hgiven ht hpath hname,
    Schema.dropLeading_intercalate (by simp) hall, ← List.append_assoc,
    Text.lastComponent_concat (Swift.not_mem_of_isBare hname rfl),
    ← Schema.scopeText_append _ _ (by simp), String.intercalate_singleton]
  rfl

end

end NameTable

/-! ## Names with the same words -/

/-- Where something stands for the first time, two lists that are equal are cut at the same place.
-/
theorem append_cons_inj_of_not_mem {α : Type} {a : α} : ∀ {xs xs' ys ys' : List α},
    a ∉ xs → a ∉ xs' → xs ++ a :: ys = xs' ++ a :: ys' → xs = xs' ∧ ys = ys'
  | [], [], _, _, _, _, h => ⟨rfl, (List.cons.inj h).2⟩
  | [], x :: xs', _, _, _, hxs', h => absurd (List.cons.inj h).1 (List.ne_of_not_mem_cons hxs')
  | x :: xs, [], _, _, hxs, _, h => absurd (List.cons.inj h).1.symm (List.ne_of_not_mem_cons hxs)
  | x :: xs, x' :: xs', _, _, hxs, hxs', h => by
    obtain ⟨rfl, htail⟩ := List.cons.inj h
    obtain ⟨rfl, hys⟩ := append_cons_inj_of_not_mem (List.not_mem_of_not_mem_cons hxs)
      (List.not_mem_of_not_mem_cons hxs') htail
    exact ⟨rfl, hys⟩

/-- A path on which no name has an underscore or is what the names of extension objects have in
them. -/
def PlainPath (path : List String) : Prop :=
  ∀ name ∈ path, '_' ∉ name.toList ∧ name ≠ "Extensions"

section
variable {path : List String} (hplain : PlainPath path)
include hplain

/-- Names without underscores have none between backticks. -/
theorem underscore_not_mem_map_quoteReserved :
    ∀ name ∈ path.map Swift.quoteReserved, '_' ∉ name.toList := by
  intro name hname
  obtain ⟨word, hword, rfl⟩ := List.mem_map.1 hname
  by_cases hmem : word ∈ Swift.reservedWords
  · rw [Swift.quoteReserved_of_mem hmem, Swift.toList_backticked]
    simpa using (hplain word hword).1
  · rw [Swift.quoteReserved_of_not_mem hmem]
    exact (hplain word hword).1

/-- The word for extensions is quoted nowhere in a plain path, for it is none of the names. -/
theorem extensions_not_mem_map_quoteReserved (hpath : ∀ name ∈ path, Swift.isBare name = true) :
    "Extensions" ∉ path.map Swift.quoteReserved := by
  intro h
  obtain ⟨word, hword, hname⟩ := List.mem_map.1 h
  have hextensions : Swift.quoteReserved "Extensions" = "Extensions" :=
    Swift.quoteReserved_of_not_mem (by decide)
  exact (hplain word hword).2 <|
    Swift.quoteReserved_inj (hpath word hword) (by decide) (hname.trans hextensions.symm)

/-- The words of the name of an extension object at a plain path. -/
theorem words_objectNames (x : ExtensionField) :
    (Schema.objectNames (path, x)).flatMap (Text.parts '_') =
      path.map Swift.quoteReserved ++ "Extensions" :: Text.parts '_' x.name.display := by
  have hextensions : Text.parts '_' "Extensions" = ["Extensions"] := by decide
  rw [Schema.objectNames, List.flatMap_append,
    Text.flatMap_parts_of_not_mem (underscore_not_mem_map_quoteReserved hplain), List.flatMap_cons,
    hextensions, List.flatMap_singleton]
  rfl

/-- The words of the property name of an extension at a plain path. -/
theorem words_propertyNames {x : ExtensionField} (hname : x.name.IsIdentifier) :
    (Schema.propertyNames (path, x)).flatMap (Text.parts '_') =
      path.map Swift.quoteReserved ++ [Swift.lowerCamel x.name.display] := by
  refine Text.flatMap_parts_of_not_mem fun name h => ?_
  rcases List.mem_append.1 h with h | h
  · exact underscore_not_mem_map_quoteReserved hplain name h
  · rw [List.mem_singleton.1 h]
    exact Swift.underscore_not_mem_lowerCamel fun c hc => Swift.isBareChar_of_mem hname.isBare hc

end

namespace Schema

/-- Objects of extensions at plain paths have one name only if the extensions have. -/
theorem names_eq_of_objectName_eq {a b : List String × ExtensionField}
    (hbare : ∀ name ∈ a.1, Swift.isBare name = true)
    (hbare' : ∀ name ∈ b.1, Swift.isBare name = true) (ha : PlainPath a.1) (hb : PlainPath b.1)
    (h : (objectNames a).flatMap (Text.parts '_') = (objectNames b).flatMap (Text.parts '_')) :
    a.1 = b.1 ∧ a.2.name.display = b.2.name.display := by
  rw [words_objectNames ha, words_objectNames hb] at h
  obtain ⟨hpath, hname⟩ := append_cons_inj_of_not_mem
    (extensions_not_mem_map_quoteReserved ha hbare)
    (extensions_not_mem_map_quoteReserved hb hbare') h
  exact ⟨Swift.map_quoteReserved_inj hbare hbare' hpath, Text.parts_inj hname⟩

/-- Properties of extensions at plain paths have one name exactly if the paths are the same and so
are the names in camel case. -/
theorem propertyName_eq_iff {a b : List String × ExtensionField}
    (hbare : ∀ name ∈ a.1, Swift.isBare name = true)
    (hbare' : ∀ name ∈ b.1, Swift.isBare name = true) (ha : PlainPath a.1) (hb : PlainPath b.1)
    (hname : a.2.name.IsIdentifier) (hname' : b.2.name.IsIdentifier) :
    (propertyNames a).flatMap (Text.parts '_') = (propertyNames b).flatMap (Text.parts '_') ↔
      a.1 = b.1 ∧ Swift.lowerCamel a.2.name.display = Swift.lowerCamel b.2.name.display := by
  rw [words_propertyNames ha hname, words_propertyNames hb hname']
  constructor
  · intro h
    obtain ⟨hpath, hlast⟩ := List.append_inj' h (by simp)
    exact ⟨Swift.map_quoteReserved_inj hbare hbare' hpath, List.singleton_inj.1 hlast⟩
  · rintro ⟨hpath, hcamel⟩
    rw [hpath, hcamel]

section
variable (f : Schema) (a b : List String × ExtensionField)

/-- Objects have one name exactly if their words between underscores are the same. -/
theorem objectName_eq_iff : f.objectName a = f.objectName b ↔
    (objectNames a).flatMap (Text.parts '_') = (objectNames b).flatMap (Text.parts '_') := by
  rw [objectName, objectName, String.append_right_inj,
    Text.intercalate_underscore_inj_iff (by simp [objectNames]) (by simp [objectNames])]

/-- Properties have one name exactly if their words between underscores are the same. -/
theorem extensionProperty_eq_iff : f.extensionProperty a = f.extensionProperty b ↔
    (propertyNames a).flatMap (Text.parts '_') = (propertyNames b).flatMap (Text.parts '_') := by
  rw [extensionProperty, extensionProperty, String.append_right_inj,
    Text.intercalate_underscore_inj_iff (by simp [propertyNames]) (by simp [propertyNames])]

end

section
variable {file : Schema} (hf : file.Identified) (hq : file.Qualified)
  (hx : file.ExtensionsQualified)
  (hgiven : file.swiftPrefix.display = "" ∨ Swift.isBare file.swiftPrefix.display = true)
  {modules : List (Json × Json)} {runtimeModule : String} {t : NameTable}
  (ht : NameTable.ofSchema file modules runtimeModule = .ok t)
include hf hq hx hgiven ht

/-- An extension has a plan with the names made of its path, unless it has no property name. -/
theorem plan_of_placed {a : List String × ExtensionField} (ha : a ∈ file.placedExtensions) :
    if file.extensionProperty a = "" then ExtensionPlan.make t a.2 = .error .noElement
    else ∃ plan, ExtensionPlan.make t a.2 = .ok plan ∧ plan.object = file.objectName a ∧
      plan.property = file.extensionProperty a ∧
      plan.extendee = t.typeName a.2.extendee false := by
  obtain ⟨hname, hfull⟩ := hx a ha
  have hpath := path_of_mem_placedExtensions ha
  have htable := NameTable.tableOf_of_identified hf ht
  have hscope := NameTable.extensionScope_of_path hf hq hgiven ht hpath hname.isBare
  have hproperty := NameTable.extensionName_of_path hf hq hgiven ht hpath hname.isBare
  split
  · next hempty =>
    rw [extensionProperty, propertyNames] at hempty
    rw [hempty] at hproperty
    exact ExtensionPlan.make_of_noProperty htable hfull hproperty
  · next hsome =>
    obtain ⟨plan, hplan, hplanProperty, hobject, hextendee⟩ :=
      ExtensionPlan.make_of_property htable hfull hscope hproperty hsome
    refine ⟨plan, hplan, ?_, hplanProperty, hextendee⟩
    have hlast : Text.lastComponent (".".intercalate (file.scope ++ (a.1 ++ [a.2.name.display]))) =
        a.2.name.display := by
      rw [← List.append_assoc, Text.lastComponent_concat (Swift.not_mem_of_isBare hname.isBare rfl)]
    have hjoined : "_".intercalate ["Extensions", a.2.name.display] =
        "Extensions_" ++ a.2.name.display := by
      rw [String.intercalate_cons_cons, String.intercalate_singleton]
      exact congrArg (· ++ a.2.name.display) (by decide)
    rw [hobject, hlast, objectName, objectNames, ← scopeText_append _ _ (by simp), hjoined,
      String.append_assoc]

/-- The extensions of a file whose names are identifiers have plans, unless no property name is left
for them, and the plans have the names made of the paths of the extensions. Two objects or two
properties have one name exactly if their words between underscores are the same. At plain paths the
objects of different extensions are distinct, and properties have one name exactly if they belong to
one path and are the same in camel case, which they are only if their letters are. -/
theorem extensionNames :
    (∀ a ∈ file.placedExtensions,
      if file.extensionProperty a = "" then ExtensionPlan.make t a.2 = .error .noElement
      else ∃ plan, ExtensionPlan.make t a.2 = .ok plan ∧ plan.object = file.objectName a ∧
        plan.property = file.extensionProperty a ∧
        plan.extendee = t.typeName a.2.extendee false) ∧
    ∀ a ∈ file.placedExtensions, ∀ b ∈ file.placedExtensions,
      (file.objectName a = file.objectName b ↔
        (objectNames a).flatMap (Text.parts '_') = (objectNames b).flatMap (Text.parts '_')) ∧
      (file.extensionProperty a = file.extensionProperty b ↔
        (propertyNames a).flatMap (Text.parts '_') = (propertyNames b).flatMap (Text.parts '_')) ∧
      (PlainPath a.1 → PlainPath b.1 →
        (a.2.fullName ≠ b.2.fullName → file.objectName a ≠ file.objectName b) ∧
        (file.extensionProperty a = file.extensionProperty b ↔
          a.1 = b.1 ∧ Swift.lowerCamel a.2.name.display = Swift.lowerCamel b.2.name.display) ∧
        (file.extensionProperty a = file.extensionProperty b →
          Swift.letters a.2.name.display.toList = Swift.letters b.2.name.display.toList)) := by
  refine ⟨fun a ha => plan_of_placed hf hq hx hgiven ht ha, fun a ha b hb =>
    ⟨file.objectName_eq_iff a b, file.extensionProperty_eq_iff a b, fun hplain hplain' => ?_⟩⟩
  have hbare := isBare_of_path hf (path_of_mem_placedExtensions ha)
  have hbare' := isBare_of_path hf (path_of_mem_placedExtensions hb)
  obtain ⟨hname, hfull⟩ := hx a ha
  obtain ⟨hname', hfull'⟩ := hx b hb
  have hcamel : file.extensionProperty a = file.extensionProperty b ↔
      a.1 = b.1 ∧ Swift.lowerCamel a.2.name.display = Swift.lowerCamel b.2.name.display := by
    rw [extensionProperty_eq_iff, propertyName_eq_iff hbare hbare' hplain hplain' hname hname']
  refine ⟨fun hne heq => hne ?_, hcamel, fun heq => ?_⟩
  · obtain ⟨hpath, hlast⟩ := names_eq_of_objectName_eq hbare hbare' hplain hplain'
      ((file.objectName_eq_iff a b).1 heq)
    rw [hfull, hfull', hpath, hlast]
  · exact Swift.letters_eq_of_lowerCamel_eq (fun c hc => Swift.isBareChar_of_mem hname.isBare hc)
      (fun c hc => Swift.isBareChar_of_mem hname'.isBare hc) (hcamel.1 heq).2

end

/-- An extension of the message `A`. -/
def extensionOfA (fullName : String) (number : Int) : ExtensionField :=
  ⟨.str "x", .str fullName, number, .int32, ".A", .optional, ""⟩

/-- A file with an extension in the message `A_B` and one in the message `B` inside of `A`. -/
def clashingScopes : Schema :=
  let inner : MessageType := ⟨.str "B", .str "A.B", [], [], [], [extensionOfA "A.B.x" 2]⟩
  { blank "a.proto" with
    messages := [⟨.str "A_B", .str "A_B", [], [], [], [extensionOfA "A_B.x" 1]⟩,
      ⟨.str "A", .str "A", [], [inner], [], []⟩] }

theorem placedExtensions_clashingScopes : clashingScopes.placedExtensions =
    [(["A_B"], extensionOfA "A_B.x" 1), (["A", "B"], extensionOfA "A.B.x" 2)] := rfl

theorem identified_clashingScopes : clashingScopes.Identified := by
  refine ⟨⟨_, rfl⟩, ⟨_, rfl⟩, by decide, nofun, ?_⟩
  change ∀ m ∈ [_, _, _], MessageType.Identified m
  intro m hm
  simp only [List.mem_cons, List.not_mem_nil, or_false] at hm
  rcases hm with rfl | rfl | rfl <;> exact ⟨⟨_, rfl, by decide⟩, ⟨_, rfl⟩, nofun⟩

theorem qualified_clashingScopes : clashingScopes.Qualified := by
  have hpaths : clashingScopes.typePaths = [(.str "A_B", ["A_B"]), (.str "A", ["A"]),
      (.str "A.B", ["A", "B"])] := rfl
  have hscope : clashingScopes.scope = [] := by decide
  rw [Qualified, hpaths, hscope, List.forall_mem_cons, List.forall_mem_cons,
    List.forall_mem_singleton]
  exact ⟨congrArg Json.str (by decide), congrArg Json.str (by decide),
    congrArg Json.str (by decide)⟩

theorem extensionsQualified_clashingScopes : clashingScopes.ExtensionsQualified := by
  have hscope : clashingScopes.scope = [] := by decide
  rw [ExtensionsQualified, placedExtensions_clashingScopes, hscope, List.forall_mem_cons,
    List.forall_mem_singleton]
  exact ⟨⟨⟨_, rfl, by decide⟩, congrArg Json.str (by decide)⟩,
    ⟨⟨_, rfl, by decide⟩, congrArg Json.str (by decide)⟩⟩

/-- The two extensions have one object and one property, of the same message. -/
theorem extensionNames_clashing : ∃ t plan plan',
    NameTable.ofSchema clashingScopes [] "SwiftProtobuf" = .ok t ∧
      ExtensionPlan.make t (extensionOfA "A_B.x" 1) = .ok plan ∧
      ExtensionPlan.make t (extensionOfA "A.B.x" 2) = .ok plan' ∧
      plan.object = "A_B_Extensions_x" ∧ plan'.object = "A_B_Extensions_x" ∧
      plan.property = "A_B_x" ∧ plan'.property = "A_B_x" ∧ plan.extendee = plan'.extendee := by
  have ht := NameTable.ofSchema_eq identified_clashingScopes [] "SwiftProtobuf"
  obtain ⟨hplans, -⟩ := extensionNames identified_clashingScopes qualified_clashingScopes
    extensionsQualified_clashingScopes (.inl rfl) ht
  rw [placedExtensions_clashingScopes, List.forall_mem_cons, List.forall_mem_singleton] at hplans
  obtain ⟨hfirst, hsecond⟩ := hplans
  rw [if_neg (by decide +kernel)] at hfirst hsecond
  obtain ⟨plan, hplan, hobject, hproperty, hextendee⟩ := hfirst
  obtain ⟨plan', hplan', hobject', hproperty', hextendee'⟩ := hsecond
  exact ⟨_, plan, plan', ht, hplan, hplan', hobject.trans (by decide +kernel),
    hobject'.trans (by decide +kernel), hproperty.trans (by decide +kernel),
    hproperty'.trans (by decide +kernel), hextendee.trans hextendee'.symm⟩

end Schema

end SchemaToSwift
