import SchemaToSwift.Proofs.Emit.Code
import SchemaToSwift.Proofs.Emit.File
import SchemaToSwift.Proofs.Names.Declared

/-!
# Extensions in the code of a file

No extension of a file is lost or printed twice (`Schema.extensions_once`). The set that the plans
of the declarations fill holds the first occurrence of each full name, first of the file itself and
then of its messages in order of declaration. In the full profile each of these has its accessors in
the group of the message it extends, its entry in the table of extensions and its extension object,
and the lines of these three blocks have nothing else. The groups are those of Swift names because
in code that is printed to the end every type that is looked up has a textual name
(`Schema.DeclaredAs.isText_typeName`).
-/

namespace SchemaToSwift

/-! ## Names of declared types -/

/-- The full name is that of a type with a textual Swift name. -/
def NameTable.NamesText (t : NameTable) (shorten : Bool) (fullName : Json) : Prop :=
  ∃ v, t.typeNameOf fullName shorten = .ok v ∧ v.IsText

section
variable {t : NameTable} {shorten : Bool}

theorem EnumType.namesText_of_declaredAs {enums : List EnumType} {blocks : List EnumBlock}
    (h : List.Forall₂ (EnumType.DeclaredAs t shorten) enums blocks) :
    ∀ n ∈ enums.map (·.fullName), t.NamesText shorten n := by
  induction h with
  | nil => exact nofun
  | cons hdeclared _ ih =>
    obtain ⟨swiftName, hname, -⟩ := hdeclared
    rw [List.map_cons, List.forall_mem_cons]
    exact ⟨⟨_, hname, swiftName, rfl⟩, ih⟩

namespace MessageType

mutual

/-- The types in a declared message have textual names. -/
theorem DeclaredAs.namesText : ∀ {m : MessageType} {d : TypeDeclaration},
    m.DeclaredAs t shorten d → ∀ n ∈ m.subtree.flatMap (·.declaredNames), t.NamesText shorten n
  | ⟨name, fullName, fields, messages, enums, extensions⟩, d, h => by
    cases h with
    | @message _ _ _ _ _ _ swiftName _ _ _ hname _ _ henums hmessages =>
      rw [subtree, List.flatMap_cons, List.forall_mem_append, declaredNames, List.forall_mem_cons]
      exact ⟨⟨⟨_, hname, swiftName, rfl⟩, EnumType.namesText_of_declaredAs henums⟩,
        namesText_of_declaredAs hmessages⟩

/-- The types in declared messages have textual names. -/
theorem namesText_of_declaredAs : ∀ {ms : List MessageType} {ds : List TypeDeclaration},
    List.Forall₂ (DeclaredAs t shorten) ms ds →
      ∀ n ∈ (subtrees ms).flatMap (·.declaredNames), t.NamesText shorten n
  | [], ds, h => by
    cases h
    exact nofun
  | m :: ms, ds, h => by
    cases h with
    | cons hm hms =>
      rw [subtrees, List.flatMap_append, List.forall_mem_append]
      exact ⟨hm.namesText, namesText_of_declaredAs hms⟩

end

end MessageType

/-- If the types of a file are declared, every type that is looked up has a textual name. -/
theorem Schema.DeclaredAs.isText_typeName {file : Schema} {ds : List TypeDeclaration}
    (h : file.DeclaredAs t shorten ds) {modules : List (Json × Json)} {runtimeModule : String}
    (ht : NameTable.ofSchema file modules runtimeModule = .ok t) (fullName : String) :
    (t.typeName fullName shorten).IsText := by
  obtain ⟨enums, messages, rfl, henums, hmessages⟩ := h
  refine NameTable.isText_typeName_of_declared ht ?_ fullName
  rw [Schema.declaredNames, List.forall_mem_append]
  exact ⟨EnumType.namesText_of_declaredAs henums, MessageType.namesText_of_declaredAs hmessages⟩

end

namespace Schema

/-- A set of extensions holds the first occurrence of each full name in all that was added to it.
The set of a file holds those among the extensions of the file and then of its messages, each before
those nested in it. In the full profile the content of a generated file has code for exactly these
extensions, and prints each of them once: its accessors in the one group of the Swift name of the
message that it extends, its entry in the table, and its object. -/
theorem extensions_once (settings : Settings) (file : Schema) :
    (∀ goes : List (List ExtensionField), (ExtensionSet.empty.addAll goes).entries =
      firstOccurrences ExtensionField.sameName (goes.flatMap ExtensionSet.keyed)) ∧
    (∀ (plan : FilePlan) (shorten : Bool) (d : FilePlan.Declarations),
      FilePlan.make settings file = .ok plan → plan.declarations shorten = .ok d →
        d.extensions.entries = firstOccurrences ExtensionField.sameName
          (file.extensions ++ file.allMessages.flatMap (·.extensions))) ∧
    (settings.isLite = false → ∀ name output content : String,
      file.generate settings = .ok (.generated name output content) →
        ∃ (plan : FilePlan) (code : FileCode), FilePlan.make settings file = .ok plan ∧
          code.IsCodeOf plan content ∧
          if file.distinctExtensions.isEmpty then code.extensions = []
          else ∃ (c : ExtensionCode) (plans : List ExtensionPlan),
            code.extensions = ExtensionCode.markSteps file.name ++ c.steps ∧
            c.PrintsOnce plan.names file.distinctExtensions plans) := by
  refine ⟨ExtensionSet.entries_addAll, fun plan shorten d hplan hd => ?_,
    fun hfull name output content h => ?_⟩
  · obtain ⟨-, -, rfl⟩ := FilePlan.make_eq_ok hplan
    exact FilePlan.entries_of_declarations hd
  · obtain ⟨plan, code, hplan, -, hcode⟩ := code_of_generate h
    obtain ⟨hnames, rfl, rfl⟩ := FilePlan.make_eq_ok hplan
    have hrepresents := hcode.represents
    refine ⟨plan, code, hplan, hcode, ?_⟩
    have hextended := hrepresents.extended hfull
    have hdeclared := hrepresents.declared
    rw [hfull, Bool.false_and] at hdeclared
    unfold ExtendedBy at hextended
    split
    · next hempty => rwa [if_pos hempty] at hextended
    · next hsome =>
      rw [if_neg hsome] at hextended
      obtain ⟨c, plans, hsteps, hmade⟩ := hextended
      refine ⟨c, plans, hsteps, hmade.printsOnce fun x hx => ?_⟩
      obtain ⟨y, -, hy⟩ := Result.exists_of_mem_mapM (Result.mapM_ok_iff.2 hmade.planned) hx
      rw [ExtensionPlan.extendee_of_make hy]
      exact hdeclared.isText_typeName hnames _

/-- An extension of the message `M`. -/
def extensionOfM (name : String) (fullName : String) (number : Int) : ExtensionField :=
  ⟨.str name, .str fullName, number, .int32, ".M", .optional, ""⟩

/-- A file with extensions at its top and in nested messages, one of them there twice. -/
def nestedExtensions : Schema :=
  let inner : MessageType := ⟨.str "N", .str "M.N", [], [], [], [extensionOfM "z" "M.N.z" 3]⟩
  { blank "a.proto" with
    messages := [⟨.str "M", .str "M", [], [inner], [],
      [extensionOfM "y" "M.y" 2, extensionOfM "x" "x" 4]⟩]
    extensions := [extensionOfM "x" "x" 1] }

theorem typed_nestedExtensions : nestedExtensions.Typed := by
  have htyped (name fullName : String) (number : Int) :
      (extensionOfM name fullName number).Typed := ⟨⟨_, rfl⟩, ⟨_, rfl⟩⟩
  refine { typed_blank "a.proto" with messages := ?_, extensions := ?_ }
  · change ∀ m ∈ [_, _], MessageType.Typed m
    intro m hm
    rcases List.mem_pair.1 hm with rfl | rfl
    · refine ⟨⟨_, rfl⟩, ⟨_, rfl⟩, by simp, by simp, fun x hx => ?_⟩
      rcases List.mem_pair.1 hx with rfl | rfl <;> exact htyped ..
    · refine ⟨⟨_, rfl⟩, ⟨_, rfl⟩, by simp, by simp, fun x hx => ?_⟩
      rw [List.mem_singleton.1 hx]
      exact htyped ..
  · intro x hx
    rw [List.mem_singleton.1 hx]
    exact htyped ..

/-- The code of the file. -/
theorem extensions_once_nested : ∃ (output content : String) (plan : FilePlan) (code : FileCode)
    (c : ExtensionCode) (plans : List ExtensionPlan),
    nestedExtensions.generate Settings.default = .ok (.generated "a.proto" output content) ∧
      FilePlan.make Settings.default nestedExtensions = .ok plan ∧ code.IsCodeOf plan content ∧
      code.extensions = ExtensionCode.markSteps "a.proto" ++ c.steps ∧
      c.PrintsOnce plan.names [extensionOfM "x" "x" 1, extensionOfM "y" "M.y" 2,
        extensionOfM "z" "M.N.z" 3] plans := by
  have hdistinct : nestedExtensions.distinctExtensions =
      [extensionOfM "x" "x" 1, extensionOfM "y" "M.y" 2, extensionOfM "z" "M.N.z" 3] := rfl
  have hnamed {fullName last : String} {c : Char}
      (hlast : Text.lastComponent (Text.dropLeading '.' fullName) = last) (hmem : c ∈ last.toList)
      (hc : c ≠ '_') : ¬ nestedExtensions.Nameless (.str fullName) := by
    rintro ⟨-, -, -, hunderscores⟩
    subst hlast
    exact hc (hunderscores c hmem)
  obtain ⟨output, content, hgenerate⟩ := generate_of_sound Settings.typed_default
    typed_nestedExtensions rfl (by
      rintro ⟨-, x, hx, hnameless⟩
      change x ∈ [_, _, _, _] at hx
      simp only [List.mem_cons, List.not_mem_nil, or_false] at hx
      have hx' : Text.lastComponent (Text.dropLeading '.' "x") = "x" := by decide
      have hy : Text.lastComponent (Text.dropLeading '.' "M.y") = "y" := by decide
      have hz : Text.lastComponent (Text.dropLeading '.' "M.N.z") = "z" := by decide
      rcases hx with rfl | rfl | rfl | rfl
      · exact hnamed hx' (.head _) (by decide) hnameless
      · exact hnamed hy (.head _) (by decide) hnameless
      · exact hnamed hx' (.head _) (by decide) hnameless
      · exact hnamed hz (.head _) (by decide) hnameless)
  obtain ⟨plan, code, hplan, hcode, honce⟩ :=
    (extensions_once Settings.default nestedExtensions).2.2 rfl _ _ _ hgenerate
  rw [hdistinct, if_neg (by simp)] at honce
  obtain ⟨c, plans, hsteps, honce⟩ := honce
  exact ⟨output, content, plan, code, c, plans, hgenerate, hplan, hcode, hsteps, honce⟩

end Schema

end SchemaToSwift
