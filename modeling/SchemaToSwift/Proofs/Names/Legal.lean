import SchemaToSwift.Proofs.Names.Reading

/-!
# Legal type names

Reserved words are put between backticks before the prefix is added, and the result is not looked at
again. So the Swift name of a type is legal exactly if it is shortened or its prefix fits before the
first name (`NameTable.isTypeName_typeName`): a reserved word behind a prefix has its backticks in
the middle, and a prefix can begin with a digit or complete a reserved word.
-/

namespace SchemaToSwift

namespace Swift

/-- The prefix of a package whose components begin with a lower-case letter fits before all names
but the reserved words. -/
theorem fitsBefore_packagePrefix_iff {package : List String}
    (hbare : ∀ part ∈ package, isBare part = true)
    (hlower : ∀ part ∈ package, beginsLower part = true) (name : String) :
    FitsBefore (packagePrefix (".".intercalate package)) name ↔
      packagePrefix (".".intercalate package) = "" ∨ name ∉ reservedWords := by
  cases package with
  | nil =>
    have hempty : packagePrefix (".".intercalate []) = "" :=
      packagePrefix_eq_empty.2 String.intercalate_nil
    exact iff_of_true (.inl hempty) (.inl hempty)
  | cons first rest =>
    have hfirst : first.toList.head?.any Text.isLower = true := hlower first (.head _)
    obtain ⟨c, cs, hcs, hc, -⟩ := exists_cons_of_isBare (hbare first (.head _))
    have hascii : Text.isAscii c = true := isAscii_of_isBareChar (isBareChar_of_startsBare hc)
    rw [hcs, List.head?_cons, Option.any_some, Text.isLower, if_pos hascii] at hfirst
    obtain ⟨tail, hchars⟩ := Text.intercalate_eq_cons hcs rest
    have hne : ".".intercalate (first :: rest) ≠ "" := by
      intro hempty
      rw [hempty] at hchars
      cases hchars
    have hidentifier := isBare_packagePrefix (isBareChar_of_mem_package hbare) hchars hfirst
    have hword := packagePrefix_append_not_mem hne name
    simp [FitsBefore, hidentifier, hword, packagePrefix_eq_empty, hne]

end Swift

namespace Schema

/-- The path that a full name of identifiers is read as is made of identifiers, and the prefix of
bare characters. -/
theorem isBare_reading {f : Schema} (hf : f.Identified)
    (hgiven : f.swiftPrefix.display = "" ∨ Swift.isBare f.swiftPrefix.display = true)
    {fullName : String} (hname : ∀ part ∈ Text.parts '.' fullName, Swift.isBare part = true) :
    (∀ c ∈ (f.reading fullName).1.toList, Swift.isBareChar c = true) ∧
      (f.reading fullName).2 ≠ [] ∧
      ∀ name ∈ (f.reading fullName).2, Swift.isBare name = true := by
  unfold reading
  split
  · next declared hfind =>
    have hmem : declared ∈ f.typePaths := List.mem_reverse.1 (List.mem_of_find?_eq_some hfind)
    obtain ⟨hne, hpath⟩ := isBare_of_mem_typePaths hf hmem
    exact ⟨isBareChar_typePrefix hf hgiven, hne, hpath⟩
  · have hparts : Text.parts '.' fullName ≠ [] := by simp [Text.parts, Text.splitAt_ne_nil]
    obtain ⟨happend, hne, -⟩ := NameTable.splitPackage_eq hparts
    rw [← happend] at hname
    have hpackage := fun part hpart => hname part (List.mem_append_left _ hpart)
    exact ⟨Swift.isBareChar_packagePrefix (Swift.isBareChar_of_mem_package hpackage), hne,
      fun name hmem => hname name (List.mem_append_right _ hmem)⟩

end Schema

namespace NameTable

/-- The Swift name of a type is a legal one exactly if it is shortened or its prefix fits before its
first name, as the full name is read. For types of other files that is so unless a reserved word
comes first after the package. -/
theorem isTypeName_typeName {file : Schema} (hf : file.Identified)
    (hgiven : file.swiftPrefix.display = "" ∨ Swift.isBare file.swiftPrefix.display = true)
    (modules : List (Json × Json)) (runtimeModule : String) :
    ∃ t, ofSchema file modules runtimeModule = .ok t ∧ ∀ fullName : String,
      (∀ part ∈ Text.parts '.' (Text.dropLeading '.' fullName), Swift.isBare part = true) →
      ∀ shorten, ∃ name typePrefix top rest, t.typeName fullName shorten = .str name ∧
        file.reading (Text.dropLeading '.' fullName) = (typePrefix, top :: rest) ∧
        (Swift.IsTypeName name ↔ shorten = true ∨ Swift.FitsBefore typePrefix top) ∧
        (t.declared? (Text.dropLeading '.' fullName) = none →
          (Swift.FitsBefore typePrefix top ↔ typePrefix = "" ∨ top ∉ Swift.reservedWords)) := by
  have ht := ofSchema_eq hf modules runtimeModule
  refine ⟨_, ht, fun fullName hname shorten => ?_⟩
  obtain ⟨hchars, hne, hpath⟩ := Schema.isBare_reading hf hgiven hname
  have htype := typeName_eq hf ht fullName shorten
  rcases hreading : file.reading (Text.dropLeading '.' fullName) with ⟨typePrefix, path⟩
  rw [hreading] at hchars hne hpath htype
  obtain ⟨top, rest, rfl⟩ := List.exists_cons_of_ne_nil hne
  refine ⟨_, typePrefix, top, rest, htype, rfl, ?_, ?_⟩
  · cases shorten with
    | true =>
      have hbare : ∀ c ∈ "".toList, Swift.isBareChar c = true := by simp
      have hlegal : Swift.IsTypeName (Swift.typeText "" (top :: rest)) :=
        (Swift.isTypeName_typeText_iff hbare hpath).2 (.inl rfl)
      simp [hlegal]
    | false => simp [Swift.isTypeName_typeText_iff hchars hpath]
  · intro hunknown
    rw [reading_of_unknown hf ht hunknown, foreignReading_def] at hreading
    have hparts : Text.parts '.' (Text.dropLeading '.' fullName) ≠ [] := by
      simp [Text.parts, Text.splitAt_ne_nil]
    obtain ⟨happend, -, hlower⟩ := splitPackage_eq hparts
    rw [← happend] at hname
    have hpackage := fun part hpart => hname part (List.mem_append_left _ hpart)
    rw [← (Prod.mk.inj hreading).1]
    exact Swift.fitsBefore_packagePrefix_iff hpackage hlower top

/-- A file with a package and a message whose name is a reserved word. -/
def reservedFile : Schema :=
  { Schema.blank "a.proto" with
    package := .str "foo"
    messages := [⟨.str "Self", .str "foo.Self", [], [], [], []⟩] }

/-- The message has backticks in the middle of its name. -/
theorem isTypeName_typeName_reserved :
    ∃ t, ofSchema reservedFile [] "SwiftProtobuf" = .ok t ∧
      t.typeName "foo.Self" false = .str "Foo_\x60Self\x60" ∧
      ¬ Swift.IsTypeName "Foo_\x60Self\x60" := by
  have hf : reservedFile.Identified := by
    refine ⟨⟨_, rfl⟩, ⟨_, rfl⟩, by decide, by simp [reservedFile, Schema.blank], fun m hm => ?_⟩
    rcases List.mem_singleton.1 hm with rfl
    exact ⟨⟨_, rfl, by decide⟩, ⟨_, rfl⟩, by simp⟩
  have hread : reservedFile.reading "foo.Self" = ("Foo_", ["Self"]) := by decide
  obtain ⟨t, ht, hnames⟩ := isTypeName_typeName hf (.inl rfl) [] "SwiftProtobuf"
  obtain ⟨name, typePrefix, top, rest, hname, hreading, hlegal, -⟩ :=
    hnames "foo.Self" (by decide) false
  have hdrop : Text.dropLeading '.' "foo.Self" = "foo.Self" := by decide
  have htext := typeName_eq hf ht "foo.Self" false
  rw [hdrop, hread] at hreading htext
  obtain ⟨rfl, hpath⟩ := Prod.mk.inj hreading
  obtain ⟨rfl, -⟩ := List.cons.inj hpath
  have hvalue : Swift.typeText "Foo_" ["Self"] = "Foo_\x60Self\x60" := by decide
  have heq : name = "Foo_\x60Self\x60" := by
    rw [hname] at htext
    exact (Json.str.inj htext).trans hvalue
  rw [heq] at hname hlegal
  refine ⟨t, ht, hname, fun hall => ?_⟩
  exact absurd (hlegal.1 hall) (by decide)

end NameTable

end SchemaToSwift
