import SchemaToSwift.Proofs.Emit.File
import SchemaToSwift.Proofs.Emit.NameLines
import SchemaToSwift.Proofs.Names.Reading

/-!
# Declarations and references

In the code of a file, the heads of nested declarations put together are the Swift names that the
file's table of names has for the declared types, which is also what fields and runtime support
refer to (`Schema.declared_paths`). The names of the declarations carry this down the tree: inside a
scope whose components are those of its path, a head adds the component of its own name
(`MessageType.paths_of_declaredAs`).
-/

namespace SchemaToSwift

/-! ## Paths of declarations -/

/-- The declared type is named after its path, which is made of identifiers. -/
structure NameTable.NamesPath (t : NameTable) (shorten : Bool) (typePrefix : String)
    (declared : Json × List String) : Prop where
  name : t.typeNameOf declared.1 shorten = .ok (.str (Swift.typeText typePrefix declared.2))
  isBare : ∀ name ∈ declared.2, Swift.isBare name = true

section
variable {t : NameTable} {shorten : Bool} {typePrefix : String}
  (hchars : ∀ c ∈ typePrefix.toList, Swift.isBareChar c = true)
include hchars

/-- The name in a head is the component that the name of the type adds to its scope. -/
theorem NameTable.NamesPath.lastComponent {fullName : Json} {scope : List String} {name : String}
    (h : t.NamesPath shorten typePrefix (fullName, scope ++ [name])) {swiftName : String}
    (hname : t.typeNameOf fullName shorten = .ok (.str swiftName)) :
    Text.lastComponent swiftName = Swift.componentIn typePrefix scope name := by
  have hsame := hname.symm.trans h.name
  rw [Json.str.inj (Except.ok.inj hsame)]
  exact Swift.lastComponent_typeText hchars (h.isBare name (by simp)) scope

/-- The enums in a scope are declared at their paths. -/
theorem EnumType.paths_of_declaredAs (scope : List String) {enums : List EnumType}
    {blocks : List EnumBlock} (h : List.Forall₂ (EnumType.DeclaredAs t shorten) enums blocks)
    (hnames : ∀ e ∈ enums, t.NamesPath shorten typePrefix (e.fullName, scope ++ [e.name.display])) :
    (blocks.map fun b => Swift.components typePrefix scope ++ [b.name]) =
      enums.map fun e => Swift.components typePrefix (scope ++ [e.name.display]) := by
  induction h with
  | nil => rfl
  | cons hdeclared _ ih =>
    obtain ⟨swiftName, hname, hblock⟩ := hdeclared
    have hlast := (hnames _ (.head _)).lastComponent hchars hname
    rw [List.map_cons, List.map_cons, ih fun e he => hnames e (.tail _ he), hblock, hlast,
      Swift.components_concat]

end

namespace MessageType

mutual

/-- The paths of a declared message in its scope are those that its declarations stand at. -/
theorem paths_of_declaredAs {t : NameTable} {shorten : Bool} {typePrefix : String}
    (hchars : ∀ c ∈ typePrefix.toList, Swift.isBareChar c = true) {scope : List String} :
    ∀ {m : MessageType} {d : TypeDeclaration}, m.DeclaredAs t shorten d →
      (∀ declared ∈ (m.placed scope).flatMap fun p => p.2.typePaths p.1,
        t.NamesPath shorten typePrefix declared) →
        d.paths (Swift.components typePrefix scope) =
          ((m.placed scope).flatMap fun p => p.2.typePaths p.1).map fun declared =>
            Swift.components typePrefix declared.2
  | ⟨name, fullName, fields, messages, enums, extensions⟩, d, h, hnames => by
    cases h with
    | @message _ _ _ _ _ _ swiftName head ofEnums ofMessages hname hhead _ henums hmessages =>
      rw [placed, List.flatMap_cons] at hnames ⊢
      have hown := hnames _ (List.mem_append_left _ (mem_typePaths_self _ _))
      have hofEnums := EnumType.paths_of_declaredAs hchars _ henums
        fun e he => hnames _ (List.mem_append_left _ (mem_typePaths_enum _ he))
      have hofMessages := pathsAll_of_declaredAs hchars hmessages
        fun declared hd => hnames declared (List.mem_append_right _ hd)
      rw [hown.lastComponent hchars hname] at hhead
      rw [TypeDeclaration.paths, TypeDeclaration.pathsAll_append, TypeDeclaration.pathsAll_enums,
        hhead, ← Swift.components_concat, hofEnums, hofMessages]
      simp [typePaths]

/-- The paths of declared messages in their scope are those that their declarations stand at. -/
theorem pathsAll_of_declaredAs {t : NameTable} {shorten : Bool} {typePrefix : String}
    (hchars : ∀ c ∈ typePrefix.toList, Swift.isBareChar c = true) {scope : List String} :
    ∀ {ms : List MessageType} {ds : List TypeDeclaration},
      List.Forall₂ (MessageType.DeclaredAs t shorten) ms ds →
        (∀ declared ∈ (placedAll scope ms).flatMap fun p => p.2.typePaths p.1,
          t.NamesPath shorten typePrefix declared) →
          TypeDeclaration.pathsAll (Swift.components typePrefix scope) ds =
            ((placedAll scope ms).flatMap fun p => p.2.typePaths p.1).map fun declared =>
              Swift.components typePrefix declared.2
  | [], ds, h, _ => by
    cases h
    rfl
  | m :: ms, ds, h, hnames => by
    cases h with
    | cons hm hms =>
      rw [placedAll, List.flatMap_append] at hnames ⊢
      rw [TypeDeclaration.pathsAll, List.map_append,
        paths_of_declaredAs hchars hm fun d hd => hnames d (List.mem_append_left _ hd),
        pathsAll_of_declaredAs hchars hms fun d hd => hnames d (List.mem_append_right _ hd)]

end

end MessageType

/-- A file whose prefix has passed the check has an identifier for its prefix, or none. -/
theorem FilePlan.isBare_of_checkPrefix {plan : FilePlan} (h : plan.checkPrefix = .ok ())
    (htext : plan.file.swiftPrefix.IsText) :
    plan.file.swiftPrefix.display = "" ∨ Swift.isBare plan.file.swiftPrefix.display = true := by
  obtain ⟨given, hgiven⟩ := htext
  unfold checkPrefix at h
  rw [hgiven] at h
  rw [hgiven, Json.display_str]
  by_cases hempty : given = ""
  · exact .inl hempty
  · have htruthy : (Json.str given).truthy = true := by simpa using hempty
    rw [if_pos htruthy] at h
    obtain ⟨text, htext, h⟩ := Result.bind_eq_ok_iff.1 h
    cases htext
    split at h
    · next hbare => exact .inr hbare
    · cases h

/-- A prefix that has passed the check is made of bare characters. -/
theorem FilePlan.isBareChar_of_checkPrefix {plan : FilePlan} (h : plan.checkPrefix = .ok ())
    (hf : plan.file.Identified) : ∀ c ∈ plan.file.typePrefix.toList, Swift.isBareChar c = true :=
  Schema.isBareChar_typePrefix hf (isBare_of_checkPrefix h hf.swiftPrefix)

namespace Schema

variable {file : Schema} {t : NameTable} {shorten : Bool} {typePrefix : String}

/-- The paths of the declarations of a file are those that its types are declared at. -/
theorem paths_of_declaredAs (hchars : ∀ c ∈ typePrefix.toList, Swift.isBareChar c = true)
    {ds : List TypeDeclaration} (h : file.DeclaredAs t shorten ds)
    (hnames : ∀ declared ∈ file.typePaths, t.NamesPath shorten typePrefix declared) :
    TypeDeclaration.pathsAll [] ds =
      file.typePaths.map fun declared => Swift.components typePrefix declared.2 := by
  obtain ⟨enums, messages, rfl, henums, hmessages⟩ := h
  have hofEnums : (enums.map fun b => [b.name]) =
      file.enums.map fun e => Swift.components typePrefix [e.name.display] :=
    EnumType.paths_of_declaredAs hchars [] henums
      fun e he => hnames _ (List.mem_append_left _ (List.mem_map.2 ⟨e, he, rfl⟩))
  have hofMessages := MessageType.pathsAll_of_declaredAs hchars hmessages
    fun declared hd => hnames declared (List.mem_append_right _ hd)
  have hscope : Swift.components typePrefix [] = [] := rfl
  rw [hscope] at hofMessages
  rw [TypeDeclaration.pathsAll_append, TypeDeclaration.pathsAll_enums, hofMessages, typePaths,
    List.map_append, List.map_map]
  exact congrArg (· ++ _) hofEnums

/-- Distinct full names belong to distinct type names. -/
theorem nodup_typeTexts (hf : file.Identified) (hq : file.Qualified)
    (hchars : ∀ c ∈ typePrefix.toList, Swift.isBareChar c = true)
    (hdistinct : file.declaredNames.Nodup) :
    (file.typePaths.map fun declared => Swift.typeText typePrefix declared.2).Nodup := by
  rw [← map_fst_typePaths, List.Nodup, List.pairwise_map] at hdistinct
  rw [List.Nodup, List.pairwise_map]
  refine hdistinct.imp_of_mem fun {a b} ha hb hne htext => hne ?_
  obtain ⟨hnea, hbarea⟩ := isBare_of_mem_typePaths hf ha
  obtain ⟨hneb, hbareb⟩ := isBare_of_mem_typePaths hf hb
  rw [hq a ha, hq b hb, Swift.typeText_inj hchars hnea hneb hbarea hbareb htext]

/-- The content of a generated file is code in which the heads of the declarations, put together
from the outermost one on, are the Swift names that the file's table has for the declared types, all
different. The fields refer to the types of the file by these names and, in the full profile, so
does the runtime support. All these names stand in the lines of the code: in the first line of each
declaration, in the line of each property and in the first line of each runtime extension. -/
theorem declared_paths {settings : Settings} (hf : file.Identified) (hq : file.Qualified)
    (hdistinct : file.declaredNames.Nodup) {name output content : String}
    (h : file.generate settings = .ok (.generated name output content)) :
    ∃ (plan : FilePlan) (code : FileCode) (shorten : Bool),
      FilePlan.make settings file = .ok plan ∧ code.IsCodeOf plan content ∧ code.NamesInLines ∧
      shorten = (settings.isLite && plan.shorten) ∧
      code.typeNames = (file.declaredNames.map fun n =>
        (plan.names.typeName n.display shorten).display) ∧
      code.typeNames.Nodup ∧
      List.Forall₂ (fun m head => List.Forall₂ (fun f property => f.type.isNamed = true →
        ∀ n ∈ file.declaredNames, Text.dropLeading '.' f.typeName = n.display →
          property.declaration = f.reference (plan.names.typeName n.display shorten).display)
        m.fields head.properties) file.allMessages code.heads ∧
      (settings.isLite = false → code.support.names = code.typeNames) := by
  obtain ⟨plan, code, hplan, hcheck, hcode⟩ := code_of_generate h
  obtain ⟨hnames, rfl, hfile⟩ := FilePlan.make_eq_ok hplan
  have hrepresents := hcode.represents
  rw [hfile] at hrepresents
  obtain ⟨shorten, hshorten⟩ : ∃ b, b = (plan.settings.isLite && plan.shorten) := ⟨_, rfl⟩
  have hdeclared := hrepresents.declared
  rw [← hshorten] at hdeclared
  -- the prefix in front of the names, which is the empty one if they are shortened
  have hchars : ∀ c ∈ (if shorten = true then "" else file.typePrefix).toList,
      Swift.isBareChar c = true := by
    cases shorten with
    | true => simp
    | false => exact hfile ▸ FilePlan.isBareChar_of_checkPrefix hcheck (hfile ▸ hf)
  have hat : ∀ declared ∈ file.typePaths, plan.names.NamesPath shorten
      (if shorten = true then "" else file.typePrefix) declared := fun declared hmem =>
    ⟨NameTable.typeNameOf_of_mem hf hq hnames hmem shorten, (isBare_of_mem_typePaths hf hmem).2⟩
  have htypeNames : code.typeNames = file.typePaths.map fun declared =>
      Swift.typeText (if shorten = true then "" else file.typePrefix) declared.2 := by
    rw [FileCode.typeNames, paths_of_declaredAs hchars hdeclared hat, List.map_map]
    rfl
  have hdeclaredNames : (file.declaredNames.map fun n =>
      (plan.names.typeName n.display shorten).display) = code.typeNames := by
    rw [htypeNames, ← map_fst_typePaths, List.map_map]
    refine List.map_congr_left fun declared hmem => ?_
    exact congrArg Json.display (NameTable.typeName_of_mem hf hq hnames hmem shorten)
  refine ⟨plan, code, shorten, hplan, hcode, code.namesInLines, hshorten, hdeclaredNames.symm, ?_,
    ?_, ?_⟩
  · rw [htypeNames]
    exact nodup_typeTexts hf hq hchars hdistinct
  · refine hdeclared.heads.imp fun m head hfields => hfields.imp fun f property hstored => ?_
    intro hnamed n hn hrefers
    rw [← map_fst_typePaths] at hn
    obtain ⟨declared, hmem, rfl⟩ := List.mem_map.1 hn
    have hname := NameTable.typeName_of_mem hf hq hnames hmem shorten
    have hsame : plan.names.typeName f.typeName shorten =
        plan.names.typeName declared.1.display shorten := by
      rw [NameTable.typeName, NameTable.typeName, hrefers, hq.dropLeading_eq hf hmem]
    rw [hname] at hsame ⊢
    exact hstored.declaration_eq hnamed hsame
  · intro hfull
    have hlong : shorten = false := by rw [hshorten, hfull, Bool.false_and]
    rw [(hrepresents.supported hfull).names_eq, ← hdeclaredNames, hlong]

/-- A file with an enum and a message in a message, of which the second has a field of the enum. -/
def nestedTypes : Schema :=
  let kind : EnumType := ⟨.str "Kind", .str "foo.Outer.Kind", []⟩
  let field : Field := ⟨.str "kind", 1, .enum, .optional, ".foo.Outer.Kind", .str "kind"⟩
  let inner : MessageType := ⟨.str "default", .str "foo.Outer.default", [field], [], [], []⟩
  { blank "a.proto" with
    package := .str "foo"
    messages := [⟨.str "Outer", .str "foo.Outer", [], [inner], [kind], []⟩] }

/-- The messages of the file. -/
theorem forall_nestedTypes {P : MessageType → Prop} :
    (∀ m ∈ nestedTypes.allMessages, P m) ↔
      ∀ m ∈ nestedTypes.messages ++ nestedTypes.messages.flatMap (·.messages), P m := Iff.rfl

theorem identified_nestedTypes : nestedTypes.Identified := by
  refine ⟨⟨_, rfl⟩, ⟨_, rfl⟩, by decide, by simp [nestedTypes, blank], ?_⟩
  rw [forall_nestedTypes]
  intro m hm
  rcases List.mem_pair.1 hm with rfl | rfl
  · refine ⟨⟨_, rfl, by decide⟩, ⟨_, rfl⟩, fun e he => ?_⟩
    rcases List.mem_singleton.1 he with rfl
    exact ⟨⟨_, rfl, by decide⟩, ⟨_, rfl⟩⟩
  · exact ⟨⟨_, rfl, by decide⟩, ⟨_, rfl⟩, by simp⟩

theorem qualified_nestedTypes : nestedTypes.Qualified := by
  have hpaths : nestedTypes.typePaths = [(.str "foo.Outer", ["Outer"]),
      (.str "foo.Outer.Kind", ["Outer", "Kind"]),
      (.str "foo.Outer.default", ["Outer", "default"])] := rfl
  have hscope : nestedTypes.scope = ["foo"] := by decide
  rw [Qualified, hpaths, hscope, List.forall_mem_cons, List.forall_mem_cons,
    List.forall_mem_singleton]
  exact ⟨congrArg Json.str (by decide), congrArg Json.str (by decide),
    congrArg Json.str (by decide)⟩

theorem typed_nestedTypes : nestedTypes.Typed := by
  refine { typed_blank "a.proto" with package := ⟨_, rfl⟩, messages := ?_ }
  rw [forall_nestedTypes]
  intro m hm
  rcases List.mem_pair.1 hm with rfl | rfl
  · refine ⟨⟨_, rfl⟩, ⟨_, rfl⟩, by simp, fun e he => ?_, by simp⟩
    rcases List.mem_singleton.1 he with rfl
    exact ⟨⟨_, rfl⟩, ⟨_, rfl⟩, by simp⟩
  · refine ⟨⟨_, rfl⟩, ⟨_, rfl⟩, fun f hf => ?_, by simp, by simp⟩
    rcases List.mem_singleton.1 hf with rfl
    exact ⟨⟨_, rfl⟩, ⟨_, rfl⟩⟩

/-- The file is generated in the full profile. -/
theorem generate_nestedTypes : ∃ output content,
    nestedTypes.generate Settings.default = .ok (.generated "a.proto" output content) := by
  refine generate_of_sound Settings.typed_default typed_nestedTypes rfl ?_
  rintro ⟨-, x, hx, -⟩
  cases hx

/-- The names in the code of the file. -/
theorem declared_paths_nested : ∃ output content,
    nestedTypes.generate Settings.default = .ok (.generated "a.proto" output content) ∧
      ∃ (plan : FilePlan) (code : FileCode), code.IsCodeOf plan content ∧ code.NamesInLines ∧
        code.support.names = code.typeNames ∧
          code.typeNames = ["Foo_Outer", "Foo_Outer.Kind", "Foo_Outer.\x60default\x60"] := by
  obtain ⟨output, content, hgenerate⟩ := generate_nestedTypes
  have hdistinct : nestedTypes.declaredNames.Nodup := by
    have hnames : nestedTypes.declaredNames =
        ["foo.Outer", "foo.Outer.Kind", "foo.Outer.default"].map .str := rfl
    rw [hnames]
    exact List.Nodup.map (fun a b h => Json.str.inj h) (by decide)
  obtain ⟨plan, code, shorten, hplan, hcode, hlines, hshorten, hnames, -, -, hsupport⟩ :=
    declared_paths identified_nestedTypes qualified_nestedTypes hdistinct hgenerate
  have hlong : shorten = false := hshorten
  subst hlong
  obtain ⟨htable, -, -⟩ := FilePlan.make_eq_ok hplan
  refine ⟨output, content, hgenerate, plan, code, hcode, hlines, hsupport rfl, ?_⟩
  have htexts : (nestedTypes.typePaths.map fun declared =>
      (plan.names.typeName declared.1.display false).display) =
        nestedTypes.typePaths.map fun declared =>
          Swift.typeText nestedTypes.typePrefix declared.2 :=
    List.map_congr_left fun declared hmem => congrArg Json.display <|
      NameTable.typeName_of_mem identified_nestedTypes qualified_nestedTypes htable hmem false
  rw [hnames, ← map_fst_typePaths, List.map_map]
  exact htexts.trans (by decide)

end Schema

end SchemaToSwift
