import SchemaToSwift.Proofs.Emit.Code
import SchemaToSwift.Proofs.Imports.Lines

/-!
# The texts of code

Of the texts that are printed for a file, those of blocks and of comments have a character that
stands neither in a plain import nor in the line that binds the package, unless they are empty
(`Text.IsCode`). So a text without such a character is printed in the imports or to bind the
package, or it is not printed at all (`FileCode.IsCodeOf.count_printedTexts`).
-/

namespace SchemaToSwift

/-! ## Characters of code -/

namespace Text

/-- Characters of code and of comments, none of which stands in an import of Foundation. -/
def codeChars : List Char := ['\n', '/', '\x7b', '\x7d']

/-- A text is empty or has a character of code. -/
def IsCode (s : String) : Prop := s = "" ∨ ∃ c ∈ s.toList, c ∈ codeChars

theorem isCode_empty : IsCode "" := .inl rfl

/-- One such character is enough. -/
theorem isCode_of_mem {c : Char} (hcode : c ∈ codeChars) {s : String} (h : c ∈ s.toList) :
    IsCode s := .inr ⟨c, h, hcode⟩

/-- A text of code does not import Foundation. -/
theorem IsCode.ne_statement {s : String} (h : IsCode s) (form : ImportForm) :
    s ≠ form.statement "Foundation" false := by
  rintro rfl
  have hnone : (form.statement "Foundation" false).toList.all (· ∉ codeChars) = true := by
    cases form <;> decide +kernel
  rcases h with hempty | ⟨c, hc, hcode⟩
  · cases form <;> exact absurd hempty (by decide)
  · exact of_decide_eq_true (List.all_eq_true.1 hnone c hc) hcode

/-- Two texts of code are code together. -/
theorem IsCode.append {s s' : String} (h : IsCode s) (h' : IsCode s') : IsCode (s ++ s') := by
  rcases h with rfl | ⟨c, hc, hcode⟩
  · rwa [String.empty_append]
  · exact isCode_of_mem hcode (by simp [hc])

/-- Texts one after another are code if each has the end of a line. -/
theorem isCode_join {texts : List String} (h : ∀ s ∈ texts, '\n' ∈ s.toList) :
    IsCode (String.join texts) := by
  cases texts with
  | nil => exact isCode_empty
  | cons s rest => exact isCode_of_mem (c := '\n') (.head _) (by simp [h s (.head _)])

/-- Only trailing characters are dropped. -/
theorem mem_dropTrailing {c d : Char} (hne : c ≠ d) {s : String} (h : c ∈ s.toList) :
    c ∈ (dropTrailing d s).toList := by
  rw [← List.mem_reverse,
    ← List.takeWhile_append_dropWhile (p := (· == d)) (l := s.toList.reverse)] at h
  rcases List.mem_append.1 h with h | h
  · exact absurd (beq_iff_eq.1 (List.mem_takeWhile_imp (p := (· == d)) h)) hne
  · simpa [dropTrailing] using h

section
variable {c : Char} {first : String}

/-- A text of lines is code if the first of them has a character of code. -/
theorem isCode_unlines (hcode : c ∈ codeChars) (hne : c ≠ '\n') (h : c ∈ first.toList)
    (rest : List String) : IsCode (dropTrailing '\n' (unlines (first :: rest))) :=
  isCode_of_mem hcode (mem_dropTrailing hne (by simp [unlines, h]))

/-- Lines are code if the first one has a character of code, also without the line feeds at their
end. -/
theorem isCode_intercalate (hcode : c ∈ codeChars) (hne : c ≠ '\n') (h : c ∈ first.toList)
    (sep : String) (rest : List String) :
    IsCode (dropTrailing '\n' (sep.intercalate (first :: rest))) := by
  refine isCode_of_mem hcode (mem_dropTrailing hne ?_)
  cases rest <;> simp [h]

end

end Text

open Text (IsCode isCode_empty isCode_of_mem isCode_unlines isCode_intercalate)

/-! ## Blocks -/

/-- The declaration of an enum is code, for it has a brace. -/
theorem EnumBlock.isCode_text (b : EnumBlock) : IsCode (Text.dropTrailing '\n' b.text) := by
  unfold text
  split <;> exact isCode_unlines (c := '\x7b') (by decide) (by decide) (by simp) _

/-- So is the head of a message. -/
theorem MessageBlock.isCode_text (b : MessageBlock) : IsCode (Text.dropTrailing '\n' b.text) :=
  isCode_unlines (c := '\x7b') (by decide) (by decide) (by simp) _

/-- So is the runtime support of an enum. -/
theorem EnumRuntimeBlock.isCode_text (b : EnumRuntimeBlock) :
    IsCode (Text.dropTrailing '\n' b.text) :=
  isCode_intercalate (c := '\x7b') (by decide) (by decide) (by simp) _ _

/-- So is that of a message. -/
theorem MessageRuntimeBlock.isCode_text (b : MessageRuntimeBlock) :
    IsCode (Text.dropTrailing '\n' b.text) :=
  isCode_intercalate (c := '\x7b') (by decide) (by decide) (by simp) _ _

/-- So are the accessors of extensions. -/
theorem AccessorBlock.isCode_text (b : AccessorBlock) : IsCode (Text.dropTrailing '\n' b.text) :=
  isCode_unlines (c := '/') (by decide) (by decide) (by simp) _

/-- So is the table of extensions, which begins with a comment. -/
theorem RegistryBlock.isCode_text (b : RegistryBlock) : IsCode (Text.dropTrailing '\n' b.text) :=
  isCode_intercalate (c := '/') (by decide) (by decide) (by simp) _ _

/-- So are the extension objects. -/
theorem ObjectBlock.isCode_text (b : ObjectBlock) : IsCode (Text.dropTrailing '\n' b.text) :=
  isCode_unlines (c := '/') (by decide) (by decide) (by simp) _

/-- So is the check of the runtime version. -/
theorem VersionBlock.isCode_text (b : VersionBlock) : IsCode (Text.dropTrailing '\n' b.text) :=
  isCode_intercalate (c := '/') (by decide) (by decide) (by simp) _ _

/-! ## Comments -/

/-- A comment is code: its lines end with line feeds, or there are none. -/
theorem isCode_markedLines (marker text : String) : IsCode (markedLines marker text) := by
  refine Text.isCode_join fun s hs => ?_
  obtain ⟨line, -, rfl⟩ := List.mem_map.1 hs
  simp

namespace Comments

/-- So are the detached comments. -/
theorem isCode_detachedText {marker text : String} {blocks : List Json}
    (h : detachedText marker blocks = .ok text) : IsCode text := by
  obtain ⟨texts, -, h⟩ := Result.bind_eq_ok_iff.1 h
  cases h
  refine Text.isCode_join fun s hs => ?_
  obtain ⟨block, -, rfl⟩ := List.mem_map.1 hs
  simp

/-- So is the leading comment. -/
theorem isCode_leadingText {marker text : String} {leading : Json}
    (h : leadingText marker leading = .ok text) : IsCode text := by
  unfold leadingText at h
  split at h
  · obtain ⟨comment, -, rfl⟩ := Result.map_eq_ok_iff.1 h
    exact isCode_markedLines marker comment
  · cases h
    exact isCode_empty

/-- The source text of comments is code. -/
theorem isCode_sourceText {c : Comments} {marker text : String} {detachedMarker : Option String}
    (h : c.sourceText marker detachedMarker = .ok text) : IsCode text := by
  cases detachedMarker with
  | none =>
    obtain ⟨detached, hdetached, h⟩ := Result.bind_eq_ok_iff.1 h
    obtain ⟨leading, hleading, h⟩ := Result.bind_eq_ok_iff.1 h
    cases hdetached
    cases h
    exact isCode_empty.append (isCode_leadingText hleading)
  | some m =>
    obtain ⟨detached, hdetached, h⟩ := Result.bind_eq_ok_iff.1 h
    obtain ⟨leading, hleading, h⟩ := Result.bind_eq_ok_iff.1 h
    cases h
    exact (isCode_detachedText hdetached).append (isCode_leadingText hleading)

end Comments

/-! ## Steps -/

namespace Printer

/-- All texts that steps print are code. -/
def PrintsCode (steps : List Step) : Prop := ∀ s ∈ printedTexts steps, IsCode s

theorem printsCode_nil : PrintsCode [] := List.forall_mem_nil _

/-- Steps print code if those before and those after do. -/
theorem printsCode_append {xs ys : List Step} :
    PrintsCode (xs ++ ys) ↔ PrintsCode xs ∧ PrintsCode ys := by
  rw [PrintsCode, printedTexts_append, List.forall_mem_append]
  rfl

/-- So do the steps of all elements of a list. -/
theorem printsCode_flatMap {α : Type} {f : α → List Step} {xs : List α}
    (h : ∀ x ∈ xs, PrintsCode (f x)) : PrintsCode (xs.flatMap f) := by
  induction xs with
  | nil => exact printsCode_nil
  | cons x rest ih =>
    obtain ⟨hx, hrest⟩ := List.forall_mem_cons.1 h
    exact printsCode_append.2 ⟨hx, ih hrest⟩

/-- A block of code prints code. -/
theorem printsCode_blockSteps {text : String} (h : IsCode (Text.dropTrailing '\n' text)) :
    PrintsCode (blockSteps text) := by
  rw [PrintsCode, printedTexts_blockSteps, List.forall_mem_singleton]
  exact h

end Printer

open Printer (PrintsCode printsCode_nil printsCode_append printsCode_flatMap printsCode_blockSteps)

namespace TypeDeclaration

/-- The end of the declaration of a message is code. -/
theorem printsCode_initialiser (access : String) :
    PrintsCode [.lines [], .block [.lines [access ++ "init() \x7b\x7d"]], .lines ["\x7d"]] := by
  have hbrace : IsCode (access ++ "init() \x7b\x7d") :=
    isCode_of_mem (c := '\x7b') (by decide) (by simp)
  have hend : IsCode "\x7d" := isCode_of_mem (c := '\x7d') (by decide) (by simp)
  exact List.forall_mem_cons.2 ⟨hbrace, List.forall_mem_singleton.2 hend⟩

mutual

/-- The texts of a declaration and of those nested in it are code. -/
theorem printsCode_steps : ∀ d : TypeDeclaration, PrintsCode d.steps
  | .enum block => printsCode_blockSteps block.isCode_text
  | .message head nested => by
    rw [steps, printsCode_append]
    refine ⟨printsCode_blockSteps head.isCode_text, ?_⟩
    have hnested := printsCode_stepsAll nested
    exact List.forall_mem_append.2 ⟨hnested, printsCode_initialiser head.access⟩

/-- Declarations print code, at any depth. -/
theorem printsCode_stepsAll : ∀ ds : List TypeDeclaration, PrintsCode (stepsAll ds)
  | [] => printsCode_nil
  | d :: ds => printsCode_append.2 ⟨printsCode_steps d, printsCode_stepsAll ds⟩

end

end TypeDeclaration

/-- So does the code for extensions. -/
theorem ExtensionCode.printsCode_steps (c : ExtensionCode) : PrintsCode c.steps :=
  printsCode_append.2 ⟨printsCode_blockSteps c.accessors.isCode_text,
    printsCode_append.2 ⟨printsCode_blockSteps c.registry.isCode_text,
      printsCode_blockSteps c.objects.isCode_text⟩⟩

/-- The texts for the extensions of a file are code. -/
theorem Schema.ExtendedBy.printsCode {t : NameTable} {f : Schema} {steps : List Printer.Step}
    (h : f.ExtendedBy t steps) : PrintsCode steps := by
  unfold Schema.ExtendedBy at h
  split at h
  · rw [h]
    exact printsCode_nil
  · obtain ⟨c, plans, rfl, -⟩ := h
    refine printsCode_append.2 ⟨?_, c.printsCode_steps⟩
    exact List.forall_mem_cons.2 ⟨isCode_empty, List.forall_mem_singleton.2 <|
      isCode_of_mem (c := '/') (by decide) (by simp)⟩

namespace MessageSupport

/-- So does the runtime support of enums. -/
theorem printsCode_enumSteps (blocks : List EnumRuntimeBlock) : PrintsCode (enumSteps blocks) :=
  printsCode_flatMap fun b _ => printsCode_blockSteps b.isCode_text

/-- So does that of a message, with all that is nested in it. -/
theorem printsCode_steps (m : MessageSupport) : PrintsCode m.steps :=
  printsCode_append.2 ⟨printsCode_blockSteps m.own.isCode_text, printsCode_enumSteps m.enums⟩

end MessageSupport

/-! ## The line that binds the package -/

namespace RuntimeSupport

/-- The line that binds a package. -/
def bindingLine (package : String) : String :=
  "fileprivate let _protobuf_package = \"" ++ package ++ "\""

theorem bindingLine_ne (package : String) : bindingLine package ≠ "" := by
  unfold bindingLine
  simp

/-- A package of identifiers is bound by a line that is no code. -/
theorem not_isCode_bindingLine {package : String}
    (h : ∀ c ∈ package.toList, Swift.isBareChar c = true ∨ c = '.') :
    ¬ IsCode (bindingLine package) := by
  have hfixed : ("fileprivate let _protobuf_package = \"".toList ++ "\"".toList).all
      (· ∉ Text.codeChars) = true := by decide +kernel
  have hplain : Text.codeChars.all (fun c => !Swift.isBareChar c && c != '.') = true := by decide
  simp only [List.all_eq_true, decide_eq_true_eq, Bool.and_eq_true, Bool.not_eq_true',
    bne_iff_ne] at hfixed hplain
  unfold bindingLine
  rintro (hempty | ⟨c, hc, hcode⟩)
  · simp at hempty
  · rw [String.toList_append, String.toList_append, List.mem_append, List.mem_append] at hc
    rcases hc with (hbefore | hpackage) | hafter
    · exact hfixed c (List.mem_append_left _ hbefore) hcode
    · obtain ⟨hbare, hdot⟩ := hplain c hcode
      rcases h c hpackage with h | h
      · exact absurd (h.symm.trans hbare) (by decide)
      · exact hdot h
    · exact hfixed c (List.mem_append_right _ hafter) hcode

/-- No import statement binds a package. -/
theorem statement_ne_bindingLine (form : ImportForm) (module : String) (exported : Bool)
    (package : String) : form.statement module exported ≠ bindingLine package := by
  intro heq
  replace heq := congrArg String.toList heq
  unfold bindingLine at heq
  cases form <;> cases exported <;> simp [ImportForm.statement, ImportForm.exportingKeywords,
    ImportForm.keywords] at heq

end RuntimeSupport

/-! ## Files -/

/-- A text that is no code is none of the texts of code. -/
theorem Printer.PrintsCode.count_eq_zero {steps : List Printer.Step} (h : PrintsCode steps)
    {s : String} (hs : ¬ IsCode s) : (Printer.printedTexts steps).count s = 0 :=
  List.count_eq_zero_of_not_mem fun hmem => hs (h s hmem)

namespace FilePlan

variable {plan : FilePlan}

/-- The line about the runtime library. -/
def libraryLines (plan : FilePlan) : List String :=
  if plan.file.isBundled then
    ["// 'import " ++ plan.names.runtimeModule ++ "' suppressed, this proto file is meant to be " ++
      "bundled in the runtime."]
  else if plan.file.definesTypes then
    [plan.settings.importForm.statement plan.names.runtimeModule false]
  else []

/-- The import of Foundation comes before the line about the runtime library, if the file needs
it. -/
theorem fixedImports_eq : plan.fixedImports =
    (if plan.file.needsFoundation then [plan.settings.importForm.statement "Foundation" false]
      else []) ++ plan.libraryLines := by
  have himport : plan.importKeywords ++ " Foundation" =
      plan.settings.importForm.statement "Foundation" false := by
    rw [importKeywords]
    cases plan.settings.importForm <;> rfl
  rw [fixedImports, himport]
  rfl

/-- The line about the runtime library is a comment or its import. -/
theorem mem_libraryLines {line : String} (h : line ∈ plan.libraryLines) :
    IsCode line ∨ line = plan.settings.importForm.statement plan.names.runtimeModule false := by
  unfold libraryLines at h
  split at h
  · rw [List.mem_singleton.1 h]
    exact .inl (isCode_of_mem (c := '/') (by decide) (by simp))
  · split at h
    · exact .inr (List.mem_singleton.1 h)
    · cases h

/-- All imports are import statements, unless they are comments. -/
theorem isCode_or_statement {modules : List String} (h : plan.moduleImports = .ok modules) :
    ∀ line ∈ plan.fixedImports ++ modules, IsCode line ∨
      ∃ module exported, line = plan.settings.importForm.statement module exported := by
  refine List.forall_mem_append.2 ⟨fun line hline => ?_, fun line hline => ?_⟩
  · rw [fixedImports_eq] at hline
    rcases List.mem_append.1 hline with hfoundation | hlibrary
    · split at hfoundation
      · exact .inr ⟨_, _, List.mem_singleton.1 hfoundation⟩
      · cases hfoundation
    · exact (mem_libraryLines hlibrary).imp_right fun hline => ⟨_, _, hline⟩
  · obtain ⟨module, exported, -, hline⟩ :=
      NameTable.statements_of_importLines (P := fun _ => True) (fun _ _ => trivial) h line hline
    exact .inr ⟨_, _, hline⟩

/-- The texts of the header are code. -/
theorem printsCode_headerSteps {comment : String} (h : plan.commentText = .ok comment) :
    PrintsCode (plan.headerSteps comment) := by
  have hcomment : IsCode comment := by
    unfold commentText at h
    split at h
    · cases h
      exact isCode_empty
    · exact Comments.isCode_sourceText h
  have hbanner : IsCode (plan.bannerText ++ "\n") :=
    isCode_of_mem (c := '\n') (by decide) (by simp)
  rw [headerSteps, PrintsCode, Printer.printedTexts, Printer.Step.printedTexts,
    List.singleton_append, List.forall_mem_cons]
  refine ⟨hbanner, ?_⟩
  unfold commentSteps
  split
  · exact printsCode_nil
  · split <;> exact List.forall_mem_singleton.2 hcomment

/-- The check of the runtime version and the comment in place of declarations are code. -/
theorem printsCode_fullSteps (hasImports : Bool) : PrintsCode (plan.fullSteps hasImports) := by
  unfold fullSteps
  split
  · exact List.forall_mem_singleton.2 (VersionBlock.isCode_text _)
  · have hnone : IsCode noDeclarations := isCode_of_mem (c := '/') (by decide) (by decide +kernel)
    refine printsCode_append.2 ⟨?_, List.forall_mem_singleton.2 hnone⟩
    split <;> exact printsCode_nil

/-- The mark before the runtime support is a comment. -/
theorem isCode_supportMarkText : IsCode plan.supportMarkText := by
  unfold supportMarkText
  exact isCode_of_mem (c := '/') (by decide) (by simp)

/-- The mark before the runtime support is code. -/
theorem printsCode_markSteps : PrintsCode plan.markSteps := by
  unfold markSteps
  split
  · have htexts : Printer.printedTexts [.lines ["", plan.supportMarkText]] =
        ["", plan.supportMarkText] := rfl
    rw [PrintsCode, htexts, List.forall_mem_cons, List.forall_mem_singleton]
    exact ⟨isCode_empty, isCode_supportMarkText⟩
  · exact printsCode_nil

end FilePlan

namespace FileCode.IsCodeOf

variable {code : FileCode} {plan : FilePlan} {content : String}

/-- In the full profile a text that is no code is printed in the imports or to bind the package, and
nowhere else. -/
theorem count_printedTexts (h : code.IsCodeOf plan content) (hfull : plan.settings.isLite = false) :
    ∃ modules, plan.moduleImports = .ok modules ∧ ∀ s, ¬ IsCode s →
      (Printer.printedTexts code.steps).count s = (plan.fixedImports ++ modules).count s +
        (Printer.printedTexts (RuntimeSupport.packageSteps code.support.package)).count s := by
  obtain ⟨comment, steps, hcomment, hpreamble, hopening⟩ := h.opening
  rw [FilePlan.Preamble, hfull, if_neg Bool.false_ne_true] at hpreamble
  obtain ⟨modules, hmodules, rfl⟩ := hpreamble
  have hrepresents := h.represents
  rw [hfull] at hrepresents
  refine ⟨modules, hmodules, fun s hs => ?_⟩
  have hheader := (FilePlan.printsCode_headerSteps hcomment).count_eq_zero hs
  have hpreamble := (plan.printsCode_fullSteps
    (!plan.fixedImports.isEmpty || !modules.isEmpty)).count_eq_zero hs
  have hdeclarations := (TypeDeclaration.printsCode_stepsAll code.declarations).count_eq_zero hs
  have hextensions := (hrepresents.extended rfl).printsCode.count_eq_zero hs
  have hmark := plan.printsCode_markSteps.count_eq_zero hs
  have henums := (MessageSupport.printsCode_enumSteps code.support.enums).count_eq_zero hs
  have hsupport : PrintsCode (code.support.messages.flatMap (·.steps)) :=
    printsCode_flatMap fun m _ => m.printsCode_steps
  have hmessages := hsupport.count_eq_zero hs
  rw [FileCode.steps, RuntimeSupport.steps, hopening, h.mark]
  simp only [Printer.printedTexts_append, List.count_append, plan.printedTexts_importSteps, hheader,
    hpreamble, hdeclarations, hextensions, hmark, henums, hmessages]
  omega

end FileCode.IsCodeOf

end SchemaToSwift
