import SchemaToSwift.Proofs.Emit.CodeLines
import SchemaToSwift.Proofs.Emit.Header
import SchemaToSwift.Proofs.Outcome.Extensions
import SchemaToSwift.Proofs.Schema.Bytes

/-!
# The import of Foundation

Values of type bytes are stored as values of a type of Foundation. If a stored property or the
accessor of an extension has such a type, the code that declares it stands behind an import of
Foundation, which is the line after the header (`FileCode.ImportsFirst`). In the full profile this
line is printed exactly if the file uses bytes, and then once, unless a module with that name is
imported anyway (`Schema.foundation_of_generate`).
-/

namespace SchemaToSwift

/-- The import of Foundation. The lite profile knows only the plain form. -/
def Settings.foundationImport (s : Settings) : String :=
  (if s.isLite then .plain else s.importForm).statement "Foundation" false

namespace Settings

variable {s : Settings}

theorem foundationImport_lite (h : s.isLite = true) : s.foundationImport = "import Foundation" := by
  rw [foundationImport, if_pos h]
  rfl

/-- The full profile uses the form of the settings. -/
theorem foundationImport_full (h : s.isLite = false) :
    s.foundationImport = s.importForm.statement "Foundation" false := by
  rw [foundationImport, h, if_neg Bool.false_ne_true]

end Settings

/-- The import of a module is one line if the name of the module is. -/
theorem ImportForm.oneLine_statement {module : String} (h : Text.OneLine module)
    (form : ImportForm) (exported : Bool) : Text.OneLine (form.statement module exported) := by
  rw [statement, Text.oneLine_append, Text.oneLine_append]
  refine ⟨⟨?_, by decide⟩, h⟩
  cases form <;> cases exported <;> decide

/-- Lines that are printed in one step are printed one after the other. -/
theorem Printer.printed_lines_cons (p : Printer) (first : String) (rest : List String) :
    ∃ steps, Printed (p.printLines [first]) steps (p.printLines (first :: rest)) := by
  cases rest with
  | nil => exact ⟨[], .nil _⟩
  | cons next rest => exact ⟨_, .lines (p.printLines [first]) (next :: rest)⟩

/-! ## Code that holds bytes -/

/-- Of related lists, something stands beside each element of the first one. -/
theorem exists_mem_zip {α β : Type} {R : α → β → Prop} {xs : List α} {ys : List β}
    (h : List.Forall₂ R xs ys) {x : α} (hx : x ∈ xs) : ∃ y, (x, y) ∈ xs.zip ys ∧ R x y := by
  induction h with
  | nil => cases hx
  | @cons a b _ _ hab _ ih =>
    rcases List.mem_cons.1 hx with rfl | hx
    · exact ⟨b, .head _, hab⟩
    · obtain ⟨y, hy, hxy⟩ := ih hx
      exact ⟨y, .tail _ hy, hxy⟩

namespace FileCode

variable {code : FileCode} {t : NameTable} {lite shorten : Bool} {file : Schema}

/-- A stored property of the code is that of a field of type bytes, at any depth. -/
def StoresBytes (code : FileCode) (file : Schema) : Prop :=
  ∃ pair ∈ file.allMessages.zip code.heads, ∃ stored ∈ pair.1.fields.zip pair.2.properties,
    stored.1.type = .bytes

/-- An accessor in the code is that of an extension of type bytes. -/
def AccessesBytes (code : FileCode) (t : NameTable) (file : Schema) : Prop :=
  ∃ (c : ExtensionCode) (x : ExtensionField) (plan : ExtensionPlan),
    code.extensions = ExtensionCode.markSteps file.name ++ c.steps ∧
    x ∈ file.distinctExtensions ∧ ExtensionPlan.make t x = .ok plan ∧
    (∃ group ∈ c.accessors.groups, plan.accessor ∈ group.accessors) ∧ x.type = .bytes

/-- A file whose code stores or accesses bytes uses bytes. -/
theorem usesBytes_of_holds (h : code.StoresBytes file ∨ code.AccessesBytes t file) :
    file.UsesBytes := by
  rcases h with ⟨⟨m, head⟩, hpair, ⟨f, property⟩, hstored, htype⟩ | ⟨c, x, plan, -, hx, -, -, htype⟩
  · exact Schema.usesBytes_of_field (List.of_mem_zip hpair).1 (List.of_mem_zip hstored).1 htype
  · exact Schema.usesBytes_of_extension hx htype

/-- Every field of type bytes has a stored property. -/
theorem Represents.storesBytes (h : code.Represents t lite shorten file) {m : MessageType}
    (hm : m ∈ file.allMessages) {f : Field} (hf : f ∈ m.fields) (htype : f.type = .bytes) :
    code.StoresBytes file := by
  obtain ⟨head, hpair, hhead⟩ := exists_mem_zip h.declared.heads hm
  obtain ⟨property, hstored, -⟩ := exists_mem_zip hhead hf
  exact ⟨_, hpair, _, hstored, htype⟩

/-- In the full profile every extension of type bytes that is not left out has an accessor. -/
theorem Represents.accessesBytes (h : code.Represents t false shorten file)
    {modules : List (Json × Json)} {runtimeModule : String}
    (ht : NameTable.ofSchema file modules runtimeModule = .ok t) {x : ExtensionField}
    (hx : x ∈ file.distinctExtensions) (htype : x.type = .bytes) : code.AccessesBytes t file := by
  have hextended := h.extended rfl
  have hdeclared := h.declared
  rw [Bool.false_and] at hdeclared
  rw [Schema.ExtendedBy, if_neg (by simpa using List.ne_nil_of_mem hx)] at hextended
  obtain ⟨c, plans, hsteps, hmade⟩ := hextended
  have honce := hmade.printsOnce fun plan hplan => by
    obtain ⟨y, -, hy⟩ := Result.exists_of_mem_mapM (Result.mapM_ok_iff.2 hmade.planned) hplan
    rw [ExtensionPlan.extendee_of_make hy]
    exact hdeclared.isText_typeName ht _
  obtain ⟨plan, hpair, hplan⟩ := exists_mem_zip honce.planned hx
  have haccessor : plan.accessor ∈ c.accessors.groups.flatMap (·.accessors) :=
    honce.accessors.mem_iff.2 (List.mem_map_of_mem (List.of_mem_zip hpair).2)
  exact ⟨c, x, plan, hsteps, hx, hplan, List.mem_flatMap.1 haccessor, htype⟩

/-- The import of Foundation is what the code begins with after the header, and so it is the line
after the header in the content. -/
structure ImportsFirst (code : FileCode) (plan : FilePlan) (content : String) : Prop where
  opening : ∃ comment others rest, plan.commentText = .ok comment ∧
    code.opening =
      plan.headerSteps comment ++ .lines (plan.settings.foundationImport :: others) :: rest
  line : ∃ before rest, plan.headerText = before ++ "\n" ∧
    content = plan.headerText ++ plan.settings.foundationImport ++ "\n" ++ rest

end FileCode

namespace FilePlan

variable {plan : FilePlan} {steps : List Printer.Step}

/-! ## The line of the import -/

/-- Between the header and the declarations of a file that uses bytes the import comes first. -/
theorem Preamble.of_usesBytes (hpreamble : plan.Preamble steps) (h : plan.file.UsesBytes) :
    ∃ others rest, steps = .lines (plan.settings.foundationImport :: others) :: rest := by
  unfold Preamble at hpreamble
  split at hpreamble
  · next hlite =>
    rw [hpreamble, liteSteps, h.definesTypes, if_pos rfl, Settings.foundationImport_lite hlite]
    exact ⟨[], [], rfl⟩
  · next hfull =>
    obtain ⟨modules, -, rfl⟩ := hpreamble
    have hfixed : plan.fixedImports = plan.settings.foundationImport :: plan.libraryLines := by
      rw [fixedImports_eq, Schema.needsFoundation_iff.2 h, if_pos rfl,
        Settings.foundationImport_full (Bool.eq_false_iff.2 hfull)]
      rfl
    rw [importSteps, stepsIfAny, hfixed]
    exact ⟨_, _, rfl⟩

/-- In the code of a file that uses bytes the import comes first. -/
theorem importsFirst_of_code (hbytes : plan.file.UsesBytes) {code : FileCode} {content : String}
    (hcode : code.IsCodeOf plan content) : code.ImportsFirst plan content := by
  obtain ⟨comment, steps, hcomment, hpreamble, hopening⟩ := hcode.opening
  obtain ⟨others, rest, rfl⟩ := hpreamble.of_usesBytes hbytes
  obtain ⟨printer, hrun, rfl⟩ := hcode.prints
  obtain ⟨r, hheader, hprinted⟩ := exists_header_of_commentText hcomment
  obtain ⟨before, hbefore⟩ := exists_line_of_header hheader
  refine ⟨⟨comment, others, rest, hcomment, hopening⟩, before, ?_⟩
  -- what is printed after the line of the import
  obtain ⟨xs, hxs⟩ := Printer.printed_lines_cons r plan.settings.foundationImport others
  have hlevel : r.level = 0 := level_of_header hheader
  rw [FileCode.steps, hopening, List.append_assoc, Printer.runAll_append hprinted.runAll,
    List.cons_append, Printer.runAll, Printer.run] at hrun
  obtain ⟨later, hlater⟩ := Printer.exists_content_runAll
    (p := r.printLines (plan.settings.foundationImport :: others)) hrun
  obtain ⟨further, hfurther⟩ := Printer.exists_content_runAll hxs.runAll
  refine ⟨further ++ later, hbefore, ?_⟩
  rw [hlater, hfurther, Printer.content_printLines hlevel, content_of_header hheader,
    ← String.append_assoc]

/-! ## How often it is imported -/

/-- No module is called Foundation, and neither is the runtime library. -/
structure ImportsNoOther (plan : FilePlan) : Prop where
  modules : ∀ entry ∈ plan.names.modules, entry.2.display ≠ "Foundation"
  runtime : plan.names.runtimeModule ≠ "Foundation"

/-- No import is code. -/
theorem not_isCode_statement (form : ImportForm) :
    ¬ Text.IsCode (form.statement "Foundation" false) := fun h => h.ne_statement form rfl

section
variable (hfull : plan.settings.isLite = false) (hother : plan.ImportsNoOther)
include hfull hother

/-- In the full profile the imports have that of Foundation once or not at all. -/
theorem count_imports {modules : List String} (h : plan.moduleImports = .ok modules) :
    (plan.fixedImports ++ modules).count plan.settings.foundationImport =
      if plan.file.needsFoundation then 1 else 0 := by
  rw [Settings.foundationImport_full hfull]
  have hlibrary : plan.settings.importForm.statement "Foundation" false ∉ plan.libraryLines := by
    intro hmem
    rcases mem_libraryLines hmem with hcode | heq
    · exact not_isCode_statement _ hcode
    · exact ImportForm.statement_ne hother.runtime false heq.symm
  have hmodules : plan.settings.importForm.statement "Foundation" false ∉ modules := by
    intro hmem
    obtain ⟨module, exported, hmodule, heq⟩ :=
      NameTable.statements_of_importLines (P := (·.display ≠ "Foundation")) hother.modules h _ hmem
    exact ImportForm.statement_ne hmodule exported heq.symm
  rw [fixedImports_eq, List.count_append, List.count_append,
    List.count_eq_zero_of_not_mem hlibrary, List.count_eq_zero_of_not_mem hmodules]
  split <;> simp

variable {code : FileCode} {content : String} (hcode : code.IsCodeOf plan content)
include hcode

/-- In the full profile the code of a file has the import once or not at all. -/
theorem count_printedTexts :
    (Printer.printedTexts code.steps).count plan.settings.foundationImport =
      if plan.file.needsFoundation then 1 else 0 := by
  obtain ⟨modules, hmodules, hcount⟩ := hcode.count_printedTexts hfull
  have himports := count_imports hfull hother hmodules
  rw [Settings.foundationImport_full hfull] at himports ⊢
  rw [hcount _ (not_isCode_statement _), himports, Nat.add_eq_left]
  refine List.count_eq_zero_of_not_mem fun hmem => ?_
  cases hpackage : code.support.package with
  | none =>
    rw [hpackage] at hmem
    cases hmem
  | some package =>
    have htexts : Printer.printedTexts (RuntimeSupport.packageSteps (some package)) =
        ["", RuntimeSupport.bindingLine package] := rfl
    rw [hpackage, htexts, List.mem_cons, List.mem_singleton] at hmem
    rcases hmem with hempty | hbinding
    · exact not_isCode_statement _ (hempty ▸ Text.isCode_empty)
    · exact RuntimeSupport.statement_ne_bindingLine _ _ _ _ hbinding

end

/-! ## The lines of the content -/

/-- The names of a file, of its modules and of the runtime library are texts of one line. -/
structure HasNamesOfOneLine (plan : FilePlan) : Prop where
  file : plan.file.OneLine
  table : plan.names.OneLine
  modules : ∀ entry ∈ plan.names.modules, Text.OneLine entry.2.display

/-- The line about the runtime library is one line if the library's name is. -/
theorem oneLine_libraryLines (h : Text.OneLine plan.names.runtimeModule) :
    ∀ line ∈ plan.libraryLines, Text.OneLine line := by
  unfold libraryLines
  split
  · refine List.forall_mem_singleton.2 ?_
    simp +decide [h]
  · split
    · exact List.forall_mem_singleton.2 (ImportForm.oneLine_statement h _ _)
    · exact List.forall_mem_nil _

/-- Then each import is one line. -/
theorem HasNamesOfOneLine.parts_imports (h : plan.HasNamesOfOneLine) {modules : List String}
    (hmodules : plan.moduleImports = .ok modules) :
    (plan.fixedImports ++ modules).flatMap (Text.parts '\n') = plan.fixedImports ++ modules := by
  have hline : ∀ line ∈ plan.fixedImports ++ modules, Text.OneLine line := by
    rw [fixedImports_eq]
    refine List.forall_mem_append.2 ⟨List.forall_mem_append.2 ⟨?_, ?_⟩, ?_⟩
    · split
      · exact List.forall_mem_singleton.2 (ImportForm.oneLine_statement (by decide) _ _)
      · exact List.forall_mem_nil _
    · exact oneLine_libraryLines h.table.runtimeModule
    · intro line hline
      obtain ⟨module, exported, hmodule, rfl⟩ := NameTable.statements_of_importLines
        (P := fun module => Text.OneLine module.display) h.modules hmodules line hline
      exact ImportForm.oneLine_statement hmodule _ _
  rw [List.flatMap_congr fun line hmem => (hline line hmem).parts_lines, List.flatMap_singleton']

/-- In the full profile the import is a line of the content once or not at all, unless it is a line
of the name of the schema file. -/
theorem count_foundation_lines (hfull : plan.settings.isLite = false)
    (hother : plan.ImportsNoOther) (hlines : plan.HasNamesOfOneLine) {q : Printer}
    (h : plan.output.Yields filePrinter q)
    (hname : plan.settings.foundationImport ∉ (Text.parts '\n' plan.file.name).tail) :
    (Text.parts '\n' q.content).count plan.settings.foundationImport =
      if plan.file.needsFoundation then 1 else 0 := by
  obtain ⟨c, rest, hchars, hc, hblock⟩ : ∃ c rest,
      plan.settings.foundationImport.toList = c :: rest ∧ ¬ (c = ' ' ∨ c = '\n' ∨ c = '\r') ∧
        ¬ IsBlockLine plan.settings.foundationImport := by
    rw [Settings.foundationImport_full hfull]
    cases plan.settings.importForm <;> exact ⟨_, _, rfl, by decide, by decide +kernel⟩
  obtain ⟨modules, hmodules, hcount⟩ :=
    count_lines hfull hlines.file hlines.table h hchars hc (not_or.2 ⟨hblock, hname⟩)
  rw [hcount, hlines.parts_imports hmodules, count_imports hfull hother hmodules]

/-- So the import is a line of the content if the file uses bytes or if it is a line of the name. -/
theorem foundation_lines (hfull : plan.settings.isLite = false)
    (hother : plan.ImportsNoOther) (hlines : plan.HasNamesOfOneLine) {q : Printer}
    (h : plan.output.Yields filePrinter q)
    (hofName : plan.settings.foundationImport ∈ (Text.parts '\n' plan.file.name).tail →
      plan.settings.foundationImport ∈ Text.parts '\n' q.content) :
    (plan.settings.foundationImport ∈ Text.parts '\n' q.content ↔ plan.file.UsesBytes ∨
        plan.settings.foundationImport ∈ (Text.parts '\n' plan.file.name).tail) ∧
      (plan.settings.foundationImport ∉ (Text.parts '\n' plan.file.name).tail →
        plan.file.UsesBytes →
          (Text.parts '\n' q.content).count plan.settings.foundationImport = 1) := by
  by_cases hname : plan.settings.foundationImport ∈ (Text.parts '\n' plan.file.name).tail
  · exact ⟨iff_of_true (hofName hname) (.inr hname), fun hnone => absurd hname hnone⟩
  · have honce := count_foundation_lines hfull hother hlines h hname
    refine ⟨?_, fun _ hbytes => ?_⟩
    · rw [← List.count_pos_iff, honce, ← Schema.needsFoundation_iff, or_iff_left hname]
      cases plan.file.needsFoundation <;> decide
    · rw [honce, Schema.needsFoundation_iff.2 hbytes, if_pos rfl]

end FilePlan

/-! ## Generated files -/

/-- If a stored property or an accessor in the code of a generated file has a type that comes from a
field or an extension of type bytes, Foundation is imported in the line after the header. In the
full profile, where neither a module of the settings nor the runtime library is called Foundation,
the import is printed exactly if a field or an extension of type bytes stands anywhere in the tree
of the file, and then once. If the names of the declarations and modules are texts of one line, it
is a line of the content exactly then, and only one, unless it is a line of the file's name, which
the banner has as it is. -/
theorem Schema.foundation_of_generate {settings : Settings} {file : Schema}
    {name output content : String}
    (h : file.generate settings = .ok (.generated name output content)) :
    ∃ (plan : FilePlan) (code : FileCode), FilePlan.make settings file = .ok plan ∧
      code.IsCodeOf plan content ∧
      (code.StoresBytes file ∨ code.AccessesBytes plan.names file →
        code.ImportsFirst plan content) ∧
      (settings.isLite = false →
        (∀ entry ∈ settings.modules, entry.2.display ≠ "Foundation") →
        settings.runtimeModule ≠ "Foundation" →
          (settings.foundationImport ∈ Printer.printedTexts code.steps ↔ file.UsesBytes) ∧
          (file.UsesBytes → code.ImportsFirst plan content ∧
            (Printer.printedTexts code.steps).count settings.foundationImport = 1) ∧
          (file.OneLine → (∀ entry ∈ settings.modules, Text.OneLine entry.2.display) →
            Text.OneLine settings.runtimeModule →
              (settings.foundationImport ∈ Text.parts '\n' content ↔
                file.UsesBytes ∨
                  settings.foundationImport ∈ (Text.parts '\n' file.name).tail) ∧
              (settings.foundationImport ∉ (Text.parts '\n' file.name).tail → file.UsesBytes →
                (Text.parts '\n' content).count settings.foundationImport = 1))) ∧
      ∀ line ∈ (Text.parts '\n' file.name).tail, line ∈ Text.parts '\n' content := by
  obtain ⟨plan, printer, hplan, hyields, rfl⟩ := yields_of_generate h
  obtain ⟨-, code, hcode⟩ := FilePlan.code_of_output hyields
  obtain ⟨hnames, rfl, rfl⟩ := FilePlan.make_eq_ok hplan
  have hfirst : plan.file.UsesBytes → code.ImportsFirst plan printer.content := fun hbytes =>
    FilePlan.importsFirst_of_code hbytes hcode
  have hofName : ∀ line ∈ (Text.parts '\n' plan.file.name).tail,
      line ∈ Text.parts '\n' printer.content := fun line => hcode.mem_lines_of_name
  refine ⟨plan, code, hplan, hcode, fun hholds => hfirst (FileCode.usesBytes_of_holds hholds),
    fun hfull hmodules hruntime => ?_, hofName⟩
  obtain ⟨-, htable, hlibrary⟩ := NameTable.fields_of_ofSchema hnames
  have hother : plan.ImportsNoOther := ⟨by rwa [htable], by rwa [hlibrary]⟩
  have hcount := FilePlan.count_printedTexts hfull hother hcode
  refine ⟨?_, fun hbytes => ⟨hfirst hbytes, ?_⟩, fun hfile hmoduleLines hruntimeLine => ?_⟩
  · rw [← List.count_pos_iff, hcount, ← needsFoundation_iff]
    cases plan.file.needsFoundation <;> decide
  · rw [hcount, needsFoundation_iff.2 hbytes, if_pos rfl]
  · have hlines : plan.HasNamesOfOneLine :=
      ⟨hfile, NameTable.oneLine_ofSchema hfile hruntimeLine hnames, by rwa [htable]⟩
    exact FilePlan.foundation_lines hfull hother hlines hyields (hofName _)

namespace Schema

/-- A file in which only a nested message has a field and an extension of type bytes. -/
def nestedBytes : Schema :=
  let data : Field := ⟨.str "data", 1, .bytes, .optional, "", .str "data"⟩
  let note : ExtensionField := ⟨.str "note", .str "M.N.note", 2, .bytes, ".M", .optional, ""⟩
  let inner : MessageType := ⟨.str "N", .str "M.N", [data], [], [], [note]⟩
  { blank "a.proto" with messages := [⟨.str "M", .str "M", [], [inner], [], []⟩] }

theorem typed_nestedBytes : nestedBytes.Typed := by
  refine { typed_blank "a.proto" with messages := ?_ }
  change ∀ m ∈ [_, _], MessageType.Typed m
  intro m hm
  rcases List.mem_pair.1 hm with rfl | rfl
  · exact ⟨⟨_, rfl⟩, ⟨_, rfl⟩, by simp, by simp, by simp⟩
  · refine ⟨⟨_, rfl⟩, ⟨_, rfl⟩, fun f hf => ?_, by simp, fun x hx => ?_⟩
    · rcases List.mem_singleton.1 hf with rfl
      exact ⟨⟨_, rfl⟩, ⟨_, rfl⟩⟩
    · rcases List.mem_singleton.1 hx with rfl
      exact ⟨⟨_, rfl⟩, ⟨_, rfl⟩⟩

theorem oneLine_nestedBytes : nestedBytes.OneLine := by
  have hname (s : String) (h : Text.OneLine s) : (Json.str s).IsLine := Json.isLine_str.2 h
  refine ⟨hname _ (by decide), hname _ (by decide), by simp [nestedBytes, blank], ?_,
    by simp [nestedBytes, blank]⟩
  change ∀ m ∈ [_, _], MessageType.OneLine m
  refine List.forall_mem_cons.2 ⟨?_, List.forall_mem_singleton.2 ?_⟩
  · exact ⟨hname _ (by decide), hname _ (by decide), by simp, by simp, by simp⟩
  · refine ⟨hname _ (by decide), hname _ (by decide), List.forall_mem_singleton.2 ?_, by simp,
      List.forall_mem_singleton.2 ?_⟩
    · exact ⟨hname _ (by decide), by decide⟩
    · exact ⟨hname _ (by decide), by decide, by decide⟩

theorem generate_nestedBytes : ∃ output content,
    nestedBytes.generate Settings.default = .ok (.generated "a.proto" output content) := by
  refine generate_of_sound Settings.typed_default typed_nestedBytes rfl ?_
  rintro ⟨-, x, hx, -, -, -, hunderscores⟩
  change x ∈ [_] at hx
  rcases List.mem_singleton.1 hx with rfl
  exact absurd (hunderscores 'n' (by decide)) (by decide)

/-- The nested property and the nested accessor are declared behind the one import. -/
theorem foundation_nestedBytes : ∃ (output content : String) (plan : FilePlan) (code : FileCode),
    nestedBytes.generate Settings.default = .ok (.generated "a.proto" output content) ∧
      FilePlan.make Settings.default nestedBytes = .ok plan ∧ code.IsCodeOf plan content ∧
      code.StoresBytes nestedBytes ∧ code.AccessesBytes plan.names nestedBytes ∧
      code.ImportsFirst plan content ∧
      (Printer.printedTexts code.steps).count "import Foundation" = 1 ∧
      (Text.parts '\n' content).count "import Foundation" = 1 := by
  obtain ⟨output, content, hgenerate⟩ := generate_nestedBytes
  obtain ⟨plan, code, hplan, hcode, hfirst, hcount, -⟩ := foundation_of_generate hgenerate
  obtain ⟨hnames, hsettings, hfile⟩ := FilePlan.make_eq_ok hplan
  have hrepresents := hcode.represents
  rw [hsettings, hfile] at hrepresents
  have hstores : code.StoresBytes nestedBytes := by
    obtain ⟨m, hm, f, hf, htype⟩ : ∃ m ∈ nestedBytes.allMessages, ∃ f ∈ m.fields,
        f.type = .bytes := ⟨_, .tail _ (.head _), _, .head _, rfl⟩
    exact hrepresents.storesBytes hm hf htype
  have haccesses : code.AccessesBytes plan.names nestedBytes :=
    hrepresents.accessesBytes hnames (.head _) rfl
  obtain ⟨-, honce, hlines⟩ := hcount rfl nofun (by decide)
  have hbytes : nestedBytes.UsesBytes := FileCode.usesBytes_of_holds (.inr haccesses)
  obtain ⟨-, hline⟩ := hlines oneLine_nestedBytes nofun (by decide)
  exact ⟨output, content, plan, code, hgenerate, hplan, hcode, hstores, haccesses,
    hfirst (.inl hstores), (honce hbytes).2, hline (by decide +kernel) hbytes⟩

/-- A file without bytes whose name has the import on a line of its own. -/
theorem foundation_lineFeed : ∃ output content,
    (blank "a\nimport Foundation\nb.proto").generate Settings.default =
        .ok (.generated "a\nimport Foundation\nb.proto" output content) ∧
      ¬ (blank "a\nimport Foundation\nb.proto").UsesBytes ∧
      "import Foundation" ∈ Text.parts '\n' content := by
  obtain ⟨output, content, hgenerate⟩ := generate_of_sound Settings.typed_default
    (typed_blank "a\nimport Foundation\nb.proto") rfl (by
      rintro ⟨-, x, hx, -⟩
      cases hx)
  obtain ⟨plan, code, hplan, -, hcode⟩ := code_of_generate hgenerate
  obtain ⟨-, -, hfile⟩ := FilePlan.make_eq_ok hplan
  have hname : "import Foundation" ∈ (Text.parts '\n' plan.file.name).tail := by
    rw [hfile]
    decide +kernel
  refine ⟨output, content, hgenerate, ?_, hcode.mem_lines_of_name hname⟩
  rw [← needsFoundation_iff]
  decide +kernel

end Schema

end SchemaToSwift
