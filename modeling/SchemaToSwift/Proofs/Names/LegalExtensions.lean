import SchemaToSwift.Proofs.Names.ExtensionNames
import SchemaToSwift.Proofs.Names.Members

/-!
# Legal names of extensions

The names of extensions are printed without backticks, but the names around an extension have theirs
in them. So the object of an extension has a legal name exactly if no message around it has a
reserved one and the prefix of the file can begin an identifier (`Schema.ScopeIsLegal`). Inside of
messages this is all that the property needs, too. At the top of the file its name is the prefix and
the camel case of the extension's name, which can begin with a digit or be reserved where the prefix
does not end with an underscore (`Schema.legalExtensionNames`).
-/

namespace SchemaToSwift

/-! ## Names joined with underscores -/

namespace Swift

/-- Behind bare characters, or none, an identifier makes up one exactly if the characters do. -/
theorem isBare_prefixed_iff {before s : String} (hbefore : ∀ c ∈ before.toList, isBareChar c = true)
    (hs : isBare s = true) : isBare (before ++ s) = true ↔ before = "" ∨ isBare before = true := by
  by_cases hempty : before = ""
  · simp [hempty, hs]
  · rw [isBare_append_iff hempty hbefore fun c hc => isBareChar_of_mem hs hc, or_iff_right hempty]

/-- Joined names are an identifier if the first one is and all are made of bare characters. -/
theorem isBare_joined {first : String} {rest : List String} (hfirst : isBare first = true)
    (hrest : ∀ name ∈ rest, ∀ c ∈ name.toList, isBareChar c = true) :
    isBare ("_".intercalate (first :: rest)) = true := by
  obtain ⟨c, cs, hchars, hc, -⟩ := exists_cons_of_isBare hfirst
  obtain ⟨tail, htail⟩ : ∃ tail, ("_".intercalate (first :: rest)).toList = c :: tail :=
    Text.intercalate_eq_cons hchars rest
  have hall : ∀ d ∈ ("_".intercalate (first :: rest)).toList, isBareChar d = true := by
    intro d hmem
    rcases Text.mem_intercalate hmem with hbetween | ⟨name, hname, hd⟩
    · rw [List.mem_singleton.1 hbetween]
      rfl
    · rcases List.mem_cons.1 hname with rfl | hname
      · exact isBareChar_of_mem hfirst hd
      · exact hrest name hname d hd
  rw [isBare, isBareChars_eq hall, htail]
  exact hc

/-- Joined names have the characters of each of them. -/
theorem mem_joined {names : List String} {name : String} (hname : name ∈ names) {c : Char}
    (hc : c ∈ name.toList) : c ∈ ("_".intercalate names).toList := by
  induction names with
  | nil => cases hname
  | cons first rest ih =>
    by_cases hrest : rest = []
    · subst hrest
      rwa [String.intercalate_singleton, ← List.mem_singleton.1 hname]
    · rw [String.intercalate_cons_of_ne_nil hrest, String.toList_append, String.toList_append,
        List.mem_append, List.mem_append]
      rcases List.mem_cons.1 hname with rfl | hname
      · exact .inl (.inl hc)
      · exact .inr (ih hname)

/-- Names put together with underscores have one. -/
theorem underscore_mem_joined {first : String} {rest : List String} (hne : rest ≠ []) :
    '_' ∈ ("_".intercalate (first :: rest)).toList := by
  rw [String.intercalate_cons_of_ne_nil hne]
  simp

section
variable {before : String} {path names : List String}
  (hbefore : ∀ c ∈ before.toList, isBareChar c = true)
  (hpath : ∀ name ∈ path, isBare name = true)
  (hnames : ∀ name ∈ names, ∀ c ∈ name.toList, isBareChar c = true)
include hbefore hpath hnames

/-- Names behind a path are an identifier exactly if no name on the path is reserved and what stands
in front of it may begin an identifier. -/
theorem isBare_scoped_iff (hfirst : ∀ first ∈ (path ++ names).head?, isBare first = true)
    (hne : path ++ names ≠ []) :
    isBare (before ++ "_".intercalate (path.map quoteReserved ++ names)) = true ↔
      (∀ name ∈ path, name ∉ reservedWords) ∧ (before = "" ∨ isBare before = true) := by
  by_cases hfree : ∀ name ∈ path, name ∉ reservedWords
  · have hsame : path.map quoteReserved = path :=
      (List.map_congr_left fun name hname => quoteReserved_of_not_mem (hfree name hname)).trans
        (List.map_id _)
    obtain ⟨first, rest, hcons⟩ := List.exists_cons_of_ne_nil hne
    rw [hcons] at hfirst
    have hall : ∀ name ∈ path ++ names, ∀ c ∈ name.toList, isBareChar c = true :=
      List.forall_mem_append.2
        ⟨fun name hname c hc => isBareChar_of_mem (hpath name hname) hc, hnames⟩
    rw [hcons] at hall
    have hjoined := isBare_joined (hfirst first rfl) fun name hname => hall name (.tail _ hname)
    rw [hsame, hcons, isBare_prefixed_iff hbefore hjoined]
    exact (and_iff_right hfree).symm
  · refine iff_of_false (fun hbare => hfree fun name hname hreserved => ?_) fun h => hfree h.1
    -- a reserved word has its backticks inside
    have hquote : '\x60' ∈ (quoteReserved name).toList := by
      rw [quoteReserved_of_mem hreserved, toList_backticked]
      simp
    refine not_mem_of_isBare hbare (c := '\x60') rfl ?_
    rw [String.toList_append, List.mem_append]
    exact .inr (mem_joined (List.mem_append_left _ (List.mem_map_of_mem hname)) hquote)

end

end Swift

namespace Schema

variable {file : Schema}

/-- Names at a path can be legal without backticks: no name on the path is reserved, and the prefix
that the package gives, if it is needed, does not begin with a digit. -/
def ScopeIsLegal (file : Schema) (path : List String) : Prop :=
  (∀ name ∈ path, name ∉ Swift.reservedWords) ∧
    (file.swiftPrefix.display = "" →
      (file.package.display.toList.find? (· ≠ '_')).any Char.isDigit = false)

/-- The prefix of a file is an identifier, if there is one, unless it comes from a package that
begins with a digit but for its underscores. -/
theorem isBare_typePrefix_iff (hf : file.Identified)
    (hgiven : file.swiftPrefix.display = "" ∨ Swift.isBare file.swiftPrefix.display = true) :
    file.typePrefix = "" ∨ Swift.isBare file.typePrefix = true ↔
      (file.swiftPrefix.display = "" →
        (file.package.display.toList.find? (· ≠ '_')).any Char.isDigit = false) := by
  rw [typePrefix, Swift.typePrefix]
  split
  · next hnone =>
    have hchars : ∀ c ∈ file.package.display.toList, Swift.isBareChar c = true ∨ c = '.' := by
      rw [package_eq]
      exact Swift.isBareChar_of_mem_package hf.scope
    by_cases hpackage : file.package.display = ""
    · simp [hpackage, Swift.packagePrefix]
    · rw [Swift.packagePrefix_eq_empty, or_iff_right hpackage,
        Swift.isBare_packagePrefix_iff hchars hpackage]
      exact (imp_iff_right hnone).symm
  · next hasked =>
    exact iff_of_true (.inr (hgiven.resolve_left hasked)) fun hnone => absurd hnone hasked

section
variable (hf : file.Identified)
  (hgiven : file.swiftPrefix.display = "" ∨ Swift.isBare file.swiftPrefix.display = true)
  {a : List String × ExtensionField} (ha : a ∈ file.placedExtensions)
  (hname : a.2.name.IsIdentifier)
include hf hgiven ha hname

/-- An extension object has a legal name exactly if its scope is legal. -/
theorem isBare_objectName_iff :
    Swift.isBare (file.objectName a) = true ↔ file.ScopeIsLegal a.1 := by
  have hpath := isBare_of_path hf (path_of_mem_placedExtensions ha)
  have hextensions : Swift.isBare "Extensions" = true := by decide
  have hnames : ∀ name ∈ ["Extensions", a.2.name.display],
      ∀ c ∈ name.toList, Swift.isBareChar c = true :=
    List.forall_mem_cons.2 ⟨fun c hc => Swift.isBareChar_of_mem hextensions hc,
      List.forall_mem_singleton.2 fun c hc => Swift.isBareChar_of_mem hname.isBare hc⟩
  have hfirst : ∀ first ∈ (a.1 ++ ["Extensions", a.2.name.display]).head?,
      Swift.isBare first = true := by
    cases hcons : a.1 with
    | nil => simpa using hextensions
    | cons first rest => simpa using hpath first (by simp [hcons])
  rw [ScopeIsLegal, ← isBare_typePrefix_iff hf hgiven]
  exact Swift.isBare_scoped_iff (isBareChar_typePrefix hf hgiven) hpath hnames hfirst (by simp)

/-- The property has a legal name exactly if its scope is legal and, at the top of the file, camel
case leaves the name legal behind the prefix. -/
theorem isLegal_extensionProperty_iff :
    Swift.isBare (file.extensionProperty a) = true ∧
        file.extensionProperty a ∉ Swift.reservedWords ↔
      file.ScopeIsLegal a.1 ∧ (a.1 = [] →
        (file.typePrefix = "" → Swift.beginsWithLetter a.2.name.display.toList = true) ∧
          file.typePrefix ++ Swift.lowerCamel a.2.name.display ∉ Swift.reservedWords) := by
  have hpath := isBare_of_path hf (path_of_mem_placedExtensions ha)
  have hchars := isBareChar_typePrefix hf hgiven
  have hnameChars : ∀ c ∈ a.2.name.display.toList, Swift.isBareChar c = true := fun c hc =>
    Swift.isBareChar_of_mem hname.isBare hc
  have hcamel := Swift.isBareChar_lowerCamel hnameChars
  rw [ScopeIsLegal, ← isBare_typePrefix_iff hf hgiven]
  cases hcons : a.1 with
  | nil =>
    have htext : file.extensionProperty a =
        file.typePrefix ++ Swift.lowerCamel a.2.name.display := by
      rw [extensionProperty, propertyNames, hcons, List.map_nil, List.nil_append,
        String.intercalate_singleton]
    rw [htext]
    by_cases hempty : file.typePrefix = ""
    · simp [hempty, Swift.isBare_lowerCamel_iff hnameChars]
    · rw [Swift.isBare_append_iff hempty hchars hcamel]
      simp [hempty]
  | cons first rest =>
    have hreserved : file.extensionProperty a ∉ Swift.reservedWords := fun hmem => by
      refine Swift.underscore_not_mem_reservedWords _ hmem ?_
      rw [extensionProperty, propertyNames, hcons, String.toList_append, List.mem_append]
      exact .inr (Swift.underscore_mem_joined (by simp))
    have hbare := Swift.isBare_scoped_iff hchars hpath (List.forall_mem_singleton.2 hcamel)
      (by simpa [hcons] using hpath first (by simp [hcons])) (by simp)
    rw [hcons] at hbare
    rw [and_iff_left hreserved, extensionProperty, propertyNames, hcons, hbare]
    simp

end

/-- The extension stands at the top of a file without prefix, and its name is all underscores. -/
def LeavesNoName (file : Schema) (a : List String × ExtensionField) : Prop :=
  a.1 = [] ∧ file.typePrefix = "" ∧ ∀ c ∈ a.2.name.display.toList, c = '_'

/-- A property has no name exactly if nothing is left of that of the extension. -/
theorem extensionProperty_eq_empty (a : List String × ExtensionField) :
    file.extensionProperty a = "" ↔ file.LeavesNoName a := by
  rw [LeavesNoName, extensionProperty, propertyNames, String.append_eq_empty_iff]
  cases hcons : a.1 with
  | nil => simp [Swift.lowerCamel_eq_empty]
  | cons first rest =>
    refine iff_of_false (fun h => ?_) fun h => List.cons_ne_nil _ _ h.1
    have hunderscore : '_' ∈ ("_".intercalate ((first :: rest).map Swift.quoteReserved ++
        [Swift.lowerCamel a.2.name.display])).toList := Swift.underscore_mem_joined (by simp)
    rw [h.2] at hunderscore
    cases hunderscore

/-- An extension of a file of identifiers has a plan, unless it stands at the top of a file without
prefix and its name is made of underscores. The name of the object is legal exactly if no message
around the extension has a reserved name and the prefix of the file does not begin with a digit. The
name of the property is legal exactly if this is so and, at the top of the file, the camel case of
the name does not begin with a digit where there is no prefix, and is not reserved behind the
prefix. -/
theorem legalExtensionNames (hf : file.Identified) (hq : file.Qualified)
    (hx : file.ExtensionsQualified)
    (hgiven : file.swiftPrefix.display = "" ∨ Swift.isBare file.swiftPrefix.display = true)
    {modules : List (Json × Json)} {runtimeModule : String} {t : NameTable}
    (ht : NameTable.ofSchema file modules runtimeModule = .ok t) :
    ∀ a ∈ file.placedExtensions,
      (file.LeavesNoName a → ExtensionPlan.make t a.2 = .error .noElement) ∧
      (¬ file.LeavesNoName a → ∃ plan, ExtensionPlan.make t a.2 = .ok plan ∧
        (Swift.isBare plan.object = true ↔ file.ScopeIsLegal a.1) ∧
        (Swift.isBare plan.property = true ∧ plan.property ∉ Swift.reservedWords ↔
          file.ScopeIsLegal a.1 ∧ (a.1 = [] →
            (file.typePrefix = "" → Swift.beginsWithLetter a.2.name.display.toList = true) ∧
              file.typePrefix ++ Swift.lowerCamel a.2.name.display ∉ Swift.reservedWords))) := by
  intro a ha
  have hname := (hx a ha).1
  have hplan := plan_of_placed hf hq hx hgiven ht ha
  rw [← extensionProperty_eq_empty]
  constructor
  · intro hempty
    rwa [if_pos hempty] at hplan
  · intro hsome
    rw [if_neg hsome] at hplan
    obtain ⟨plan, hmake, hobject, hproperty, -⟩ := hplan
    refine ⟨plan, hmake, ?_, ?_⟩
    · rw [hobject, isBare_objectName_iff hf hgiven ha hname]
    · rw [hproperty, isLegal_extensionProperty_iff hf hgiven ha hname]

/-- A file with an extension in the message `Self` and one with the name `class`. -/
def reservedScopes : Schema :=
  { blank "a.proto" with
    messages := [⟨.str "Self", .str "Self", [], [], [], [extensionOfA "Self.x" 1]⟩]
    extensions := [{ extensionOfA "class" 2 with name := .str "class" }] }

theorem placedExtensions_reservedScopes : reservedScopes.placedExtensions =
    [([], { extensionOfA "class" 2 with name := .str "class" }),
      (["Self"], extensionOfA "Self.x" 1)] := rfl

theorem identified_reservedScopes : reservedScopes.Identified := by
  refine ⟨⟨_, rfl⟩, ⟨_, rfl⟩, by decide, nofun, ?_⟩
  change ∀ m ∈ [_], MessageType.Identified m
  exact List.forall_mem_singleton.2 ⟨⟨_, rfl, by decide⟩, ⟨_, rfl⟩, nofun⟩

theorem qualified_reservedScopes : reservedScopes.Qualified := by
  have hpaths : reservedScopes.typePaths = [(.str "Self", ["Self"])] := rfl
  have hscope : reservedScopes.scope = [] := by decide
  rw [Qualified, hpaths, hscope, List.forall_mem_singleton]
  exact congrArg Json.str (by decide)

theorem extensionsQualified_reservedScopes : reservedScopes.ExtensionsQualified := by
  have hscope : reservedScopes.scope = [] := by decide
  rw [ExtensionsQualified, placedExtensions_reservedScopes, hscope, List.forall_mem_cons,
    List.forall_mem_singleton]
  exact ⟨⟨⟨_, rfl, by decide⟩, congrArg Json.str (by decide)⟩,
    ⟨⟨_, rfl, by decide⟩, congrArg Json.str (by decide)⟩⟩

/-- The object of the first extension has a legal name and its property a reserved one; the names of
the second one are not legal. -/
theorem legalExtensionNames_reserved : ∃ t plan plan',
    NameTable.ofSchema reservedScopes [] "SwiftProtobuf" = .ok t ∧
      ExtensionPlan.make t { extensionOfA "class" 2 with name := .str "class" } = .ok plan ∧
      ExtensionPlan.make t (extensionOfA "Self.x" 1) = .ok plan' ∧
      Swift.isBare plan.object = true ∧
      ¬ (Swift.isBare plan.property = true ∧ plan.property ∉ Swift.reservedWords) ∧
      ¬ Swift.isBare plan'.object = true ∧
      ¬ (Swift.isBare plan'.property = true ∧ plan'.property ∉ Swift.reservedWords) := by
  have ht := NameTable.ofSchema_eq identified_reservedScopes [] "SwiftProtobuf"
  have hplans := legalExtensionNames identified_reservedScopes qualified_reservedScopes
    extensionsQualified_reservedScopes (.inl rfl) ht
  rw [placedExtensions_reservedScopes, List.forall_mem_cons, List.forall_mem_singleton] at hplans
  obtain ⟨plan, hplan, hobject, hproperty⟩ := hplans.1.2 fun h =>
    absurd (h.2.2 'c' (.head _)) (by decide)
  obtain ⟨plan', hplan', hobject', hproperty'⟩ := hplans.2.2 fun h => List.cons_ne_nil _ _ h.1
  have hreserved : ¬ reservedScopes.ScopeIsLegal ["Self"] := fun h =>
    h.1 "Self" (.head _) (by decide)
  refine ⟨_, plan, plan', ht, hplan, hplan', hobject.2 ⟨nofun, fun _ => by decide⟩, ?_, ?_, ?_⟩
  · rw [hproperty]
    rintro ⟨-, htop⟩
    exact (htop rfl).2 (by decide +kernel)
  · rwa [hobject']
  · rw [hproperty']
    exact fun h => hreserved h.1

end Schema

end SchemaToSwift
