import SchemaToSwift.Proofs.Names.Reading

/-!
# Names of types of other files

A file names the types of other files by what their full names suggest: components at the start that
begin with a lower-case letter are the package. Where packages and types keep to that convention and
no prefix is asked for, the suggestion is right, and a type has the same Swift name in the file that
declares it and in every other file (`NameTable.typeName_foreign`).
-/

namespace SchemaToSwift

/-- A file that keeps to the convention of names: the components of its package begin with a
lower-case letter, and its top-level types do not. -/
structure Schema.Conventional (f : Schema) : Prop where
  package : ∀ part ∈ f.scope, beginsLower part = true
  enums : ∀ e ∈ f.enums, beginsLower e.name.display = false
  messages : ∀ m ∈ f.messages, beginsLower m.name.display = false

namespace Schema

variable {f : Schema}

theorem Declares.begins (hc : f.Conventional) {path : List String} {m : MessageType}
    (h : f.Declares path m) : ∃ top rest, path = top :: rest ∧ beginsLower top = false := by
  induction h with
  | top hm => exact ⟨_, [], rfl, hc.messages _ hm⟩
  | nested _ _ ih =>
    obtain ⟨top, rest, rfl, htop⟩ := ih
    exact ⟨top, _, List.cons_append, htop⟩

/-- The path of a declaration does not begin like a package. -/
theorem Conventional.begins (hc : f.Conventional) {declared : Json × List String}
    (h : declared ∈ f.typePaths) :
    ∃ top rest, declared.2 = top :: rest ∧ beginsLower top = false := by
  rcases List.mem_append.1 h with h | h
  · obtain ⟨e, he, rfl⟩ := List.mem_map.1 h
    exact ⟨_, [], rfl, hc.enums e he⟩
  · obtain ⟨⟨path, m⟩, hplaced, hdeclared⟩ := List.mem_flatMap.1 h
    obtain ⟨top, rest, rfl, htop⟩ := (mem_placedMessages_iff.1 hplaced).begins hc
    rcases List.mem_cons.1 hdeclared with rfl | hdeclared
    · exact ⟨top, rest, rfl, htop⟩
    · obtain ⟨e, -, rfl⟩ := List.mem_map.1 hdeclared
      exact ⟨top, _, List.cons_append, htop⟩

end Schema

/-- The full names that a typed file declares are texts. -/
theorem Schema.Typed.isText_declaredNames {f : Schema} (hf : f.Typed) {fullName : Json}
    (h : fullName ∈ f.declaredNames) : fullName.IsText := by
  rcases List.mem_append.1 h with h | h
  · obtain ⟨e, he, rfl⟩ := List.mem_map.1 h
    exact (hf.enums e he).fullName
  · obtain ⟨m, hm, hdeclared⟩ := List.mem_flatMap.1 h
    rcases List.mem_cons.1 hdeclared with rfl | hdeclared
    · exact (hf.messages m hm).fullName
    · obtain ⟨e, he, rfl⟩ := List.mem_map.1 hdeclared
      exact ((hf.messages m hm).enums e he).fullName

namespace NameTable

/-- Where the package ends and the path begins. -/
theorem splitPackage_append {scope : List String} (hscope : ∀ part ∈ scope, beginsLower part = true)
    {top : String} (htop : beginsLower top = false) (rest : List String) :
    splitPackage (scope ++ top :: rest) = (scope, top :: rest) := by
  induction scope with
  | nil =>
    cases rest with
    | nil => rfl
    | cons next rest =>
      rw [List.nil_append, splitPackage, if_neg]
      · exact ne_true_of_eq_false htop
      · exact List.cons_ne_nil _ _
  | cons part scope ih =>
    have hpart : part.toList.head?.any Text.isLower = true := hscope part (.head _)
    rw [List.cons_append, splitPackage, if_pos hpart, ih fun p hp => hscope p (.tail _ hp)]
    simp

/-- The full name of a declaration suggests the package and the path of the declaration. -/
theorem foreignReading_eq {f : Schema} (hf : f.Identified) (hq : f.Qualified)
    (hc : f.Conventional) {declared : Json × List String} (h : declared ∈ f.typePaths) :
    foreignReading declared.1.display =
      (Swift.packagePrefix f.package.display, declared.2) := by
  obtain ⟨hne, hbare⟩ := Schema.isBare_of_mem_scope_path hf h
  have hparts : Text.parts '.' declared.1.display = f.scope ++ declared.2 := by
    rw [hq declared h]
    exact Text.parts_intercalate hne
      fun part hpart => Swift.not_mem_of_isBare (hbare part hpart) rfl
  obtain ⟨top, rest, hpath, htop⟩ := hc.begins h
  rw [foreignReading, hparts, hpath, splitPackage_append hc.package htop, f.package_eq]

/-- Under the convention of names, a type of a file without a prefix of its own has one Swift name:
any file that declares no type of its full name, whatever else is in it, gives the type the name
that it has in the file that declares it. Dots in front of the full name do not matter. -/
theorem typeName_foreign {a b : Schema} (ha : a.Typed) (hb : b.Identified) (hq : b.Qualified)
    (hc : b.Conventional) (hnone : b.swiftPrefix = .str "")
    (modulesA modulesB : List (Json × Json)) (runtimeA runtimeB : String) :
    ∃ ta tb, ofSchema a modulesA runtimeA = .ok ta ∧ ofSchema b modulesB runtimeB = .ok tb ∧
      ∀ fullName ∈ b.declaredNames, fullName ∉ a.declaredNames → ∀ shorten dots,
        tb.typeNameOf fullName shorten = .ok
          (ta.typeName (String.ofList (List.replicate dots '.') ++ fullName.display) shorten) := by
  obtain ⟨ta, hta, htable⟩ := tableOf_ofSchema ha modulesA runtimeA
  have htb := ofSchema_eq hb modulesB runtimeB
  refine ⟨ta, _, hta, htb, fun fullName hdeclared hforeign shorten dots => ?_⟩
  rw [← b.map_fst_typePaths] at hdeclared
  obtain ⟨declared, hmem, rfl⟩ := List.mem_map.1 hdeclared
  have htext : declared.1.IsText := ⟨_, hq declared hmem⟩
  have hprefix : b.typePrefix = Swift.packagePrefix b.package.display := by
    rw [Schema.typePrefix, hnone]
    rfl
  have hunknown : ta.declared? declared.1.display = none := by
    rw [htable.declared?_eq_none]
    intro hdisplay
    obtain ⟨other, hother, hname⟩ := List.mem_map.1 hdisplay
    have heq : other = declared.1 := by
      rw [(ha.isText_declaredNames hother).eq_str, htext.eq_str, hname]
    exact hforeign (heq ▸ hother)
  rw [typeNameOf_of_mem hb hq htb hmem, typeName, hq.dropLeading_dots hb hmem, hunknown,
    foreignName_eq, foreignReading_eq hb hq hc hmem, hprefix]

/-- A file with an enum in a message. -/
def declaringFile : Schema :=
  let mode : EnumType := ⟨.str "default", .str "foo.bar.Outer.default", []⟩
  { Schema.blank "b.proto" with
    package := .str "foo.bar"
    messages := [⟨.str "Outer", .str "foo.bar.Outer", [], [], [mode], []⟩] }

/-- A file of another package, with a prefix. -/
def importingFile : Schema :=
  { Schema.blank "a.proto" with package := .str "baz", swiftPrefix := .str "XY" }

/-- Both files give the enum the same name. -/
theorem typeName_foreign_nested :
    ∃ ta tb, ofSchema importingFile [] "SwiftProtobuf" = .ok ta ∧
      ofSchema declaringFile [] "SwiftProtobuf" = .ok tb ∧
      tb.typeNameOf (.str "foo.bar.Outer.default") false =
        .ok (ta.typeName ".foo.bar.Outer.default" false) := by
  have ha : importingFile.Typed :=
    { Schema.typed_blank "a.proto" with package := ⟨_, rfl⟩, swiftPrefix := ⟨_, rfl⟩ }
  have hb : declaringFile.Identified := by
    refine ⟨⟨_, rfl⟩, ⟨_, rfl⟩, by decide, by simp [declaringFile, Schema.blank], fun m hm => ?_⟩
    rcases List.mem_singleton.1 hm with rfl
    refine ⟨⟨_, rfl, by decide⟩, ⟨_, rfl⟩, fun e he => ?_⟩
    rcases List.mem_singleton.1 he with rfl
    exact ⟨⟨_, rfl, by decide⟩, ⟨_, rfl⟩⟩
  have hq : declaringFile.Qualified := by
    intro declared hdeclared
    rcases List.mem_pair.1 hdeclared with rfl | rfl <;> exact congrArg Json.str (by decide)
  have hc : declaringFile.Conventional := by
    refine ⟨by decide, by simp [declaringFile, Schema.blank], fun m hm => ?_⟩
    rcases List.mem_singleton.1 hm with rfl
    decide
  obtain ⟨ta, tb, hta, htb, hsame⟩ :=
    typeName_foreign ha hb hq hc rfl [] [] "SwiftProtobuf" "SwiftProtobuf"
  exact ⟨ta, tb, hta, htb,
    hsame (.str "foo.bar.Outer.default") (.tail _ (.head _)) (List.not_mem_nil) false 1⟩

end NameTable

end SchemaToSwift
