import SchemaToSwift.Outcome
import SchemaToSwift.Proofs.Emit.ExtensionCode
import SchemaToSwift.Proofs.Emit.Opening
import SchemaToSwift.Proofs.Emit.Support

/-!
# The code of a file

The code that is generated for a file has a part before the declarations, the declarations of its
types, the code for its extensions and, in the full profile, the runtime support (`FileCode`). The
content of a file that is generated is such code as it is printed (`FileCode.IsCodeOf`): it begins
with the header and the preamble of the file and nothing else, declares all types of the file and
supports them all (`Schema.code_of_generate`), whatever the settings are.
-/

namespace SchemaToSwift

/-- The runtime support of a file. -/
structure RuntimeSupport where
  opening : List Printer.Step
  /-- The package, if it is bound for the proto names to refer to. -/
  package : Option String
  enums : List EnumRuntimeBlock
  messages : List MessageSupport

namespace RuntimeSupport

/-- No runtime support. -/
def empty : RuntimeSupport := ⟨[], none, [], []⟩

/-- The steps that bind the package. -/
def packageSteps : Option String → List Printer.Step
  | none => []
  | some package => [.lines ["", "fileprivate let _protobuf_package = \"" ++ package ++ "\""]]

/-- The steps that print the runtime support. -/
def steps (r : RuntimeSupport) : List Printer.Step :=
  r.opening ++ (packageSteps r.package ++
    (MessageSupport.enumSteps r.enums ++ r.messages.flatMap (·.steps)))

/-- The names of the types that are extended. -/
def names (r : RuntimeSupport) : List String :=
  r.enums.map (·.name) ++ r.messages.flatMap (·.names)

end RuntimeSupport

/-- The declarations declare the types of the file: the enums and then the messages. -/
def Schema.DeclaredAs (t : NameTable) (shorten : Bool) (f : Schema) (ds : List TypeDeclaration) :
    Prop :=
  ∃ enums messages, ds = enums.map .enum ++ messages ∧
    List.Forall₂ (EnumType.DeclaredAs t shorten) f.enums enums ∧
    List.Forall₂ (MessageType.DeclaredAs t shorten) f.messages messages

/-- The heads in the declarations of a file are those of its messages. -/
theorem Schema.DeclaredAs.heads {t : NameTable} {shorten : Bool} {f : Schema}
    {ds : List TypeDeclaration} (h : f.DeclaredAs t shorten ds) :
    List.Forall₂ (MessageType.HeadedBy t shorten) f.allMessages (TypeDeclaration.headsAll ds) := by
  obtain ⟨enums, messages, rfl, -, hmessages⟩ := h
  rw [TypeDeclaration.headsAll_append, TypeDeclaration.headsAll_enums, List.nil_append]
  exact MessageType.headsAll_of_declaredAs hmessages

/-- The runtime support extends all types of the file under their Swift names, and binds the package
if there is one and a message to refer to it. -/
structure Schema.SupportedBy (t : NameTable) (f : Schema) (r : RuntimeSupport) : Prop where
  enums : List.Forall₂ (EnumType.SupportedBy t false) f.enums r.enums
  messages :
    List.Forall₂ (MessageType.SupportedBy t false f.package.truthy) f.allMessages r.messages
  package : r.package =
    if f.package.truthy && !f.messages.isEmpty then some f.package.display else none

/-- The runtime support of a file extends the types that it declares, in order. -/
theorem Schema.SupportedBy.names_eq {t : NameTable} {f : Schema} {r : RuntimeSupport}
    (h : f.SupportedBy t r) :
    r.names = f.declaredNames.map fun n => (t.typeName n.display false).display := by
  rw [RuntimeSupport.names, EnumType.names_of_supportedBy h.enums,
    MessageType.names_of_supportedBy h.messages, declaredNames, List.map_append, List.map_map]
  rfl

/-- The code of a file. -/
structure FileCode where
  /-- The steps before the declarations: the banner, comments and imports. -/
  opening : List Printer.Step
  declarations : List TypeDeclaration
  /-- The steps for the extensions that the file declares. -/
  extensions : List Printer.Step
  support : RuntimeSupport

namespace FileCode

/-- The steps that print the code. -/
def steps (code : FileCode) : List Printer.Step :=
  code.opening ++ (TypeDeclaration.stepsAll code.declarations ++
    (code.extensions ++ code.support.steps))

/-- The code with steps before it. -/
def after (xs : List Printer.Step) (code : FileCode) : FileCode :=
  { code with opening := xs ++ code.opening }

/-- The heads of the declarations put together, from the outermost one on. -/
def typeNames (code : FileCode) : List String :=
  (TypeDeclaration.pathsAll [] code.declarations).map (".".intercalate ·)

/-- The heads of all messages, each before those nested in it. -/
def heads (code : FileCode) : List MessageBlock := TypeDeclaration.headsAll code.declarations

/-- The content of a file is the code as it is printed. -/
def Prints (code : FileCode) (content : String) : Prop :=
  ∃ printer, filePrinter.runAll code.steps = (printer, true) ∧ printer.content = content

/-- The code declares the types of the file and, in the full profile, has the code for its
extensions and supports the types. The lite profile has no code for either. -/
structure Represents (code : FileCode) (t : NameTable) (lite shorten : Bool) (file : Schema) :
    Prop where
  declared : file.DeclaredAs t (lite && shorten) code.declarations
  extended : lite = false → file.ExtendedBy t code.extensions
  supported : lite = false → file.SupportedBy t code.support
  declaresOnly : lite = true → code.extensions = [] ∧ code.support = .empty

/-- The code begins with the given steps, and its runtime support with those of a mark. -/
structure Opens (code : FileCode) (opening mark : List Printer.Step) : Prop where
  opening : code.opening = opening
  support : code.support.opening = mark

variable {code : FileCode} {t : NameTable} {lite shorten : Bool} {file : Schema}
variable {opening mark : List Printer.Step}

/-- What is printed before some code comes before its opening. -/
theorem Opens.after (h : code.Opens opening mark) (xs : List Printer.Step) :
    (code.after xs).Opens (xs ++ opening) mark :=
  ⟨congrArg (xs ++ ·) h.opening, h.support⟩

/-- It does not change what the code declares and supports. -/
theorem Represents.after (h : code.Represents t lite shorten file) (xs : List Printer.Step) :
    (code.after xs).Represents t lite shorten file :=
  ⟨h.declared, h.extended, h.supported, h.declaresOnly⟩

/-- Code is printed after the steps that are put before it. -/
theorem printed_after {p q r : Printer} {xs : List Printer.Step} (hx : Printer.Printed p xs r)
    (h : Printer.Printed r code.steps q) : Printer.Printed p (code.after xs).steps q := by
  rw [after, steps, List.append_assoc]
  exact hx.append h

/-- A file that defines nothing is represented by code without declarations. -/
theorem represents_of_nothing (h : file.definesTypes = false) (opening : List Printer.Step) :
    Represents ⟨opening, [], [], .empty⟩ t lite shorten file := by
  simp only [Schema.definesTypes, Bool.or_eq_false_iff, Bool.not_eq_false', List.isEmpty_iff] at h
  obtain ⟨⟨henums, hmessages⟩, hextensions⟩ := h
  have hall : file.allMessages = [] := by rw [Schema.allMessages, hmessages]; rfl
  have hnone : file.distinctExtensions = [] := by
    rw [Schema.distinctExtensions, Schema.allExtensions, hextensions, hall]
    rfl
  refine ⟨⟨[], [], rfl, by simp [henums], by simp [hmessages]⟩, fun _ => ?_,
    fun _ => ⟨?_, ?_, ?_⟩, fun _ => ⟨rfl, rfl⟩⟩
  · rw [Schema.ExtendedBy, hnone]
    rfl
  · rw [henums]
    exact .nil
  · rw [hall]
    exact .nil
  · simp [hmessages, RuntimeSupport.empty]

end FileCode

namespace FilePlan

variable {plan : FilePlan} {p q : Printer}

/-! ## The declarations and their support -/

/-- What the plans of the declarations hold. -/
theorem declarations_eq_ok {shorten : Bool} {d : Declarations}
    (h : plan.declarations shorten = .ok d) :
    plan.file.enums.mapM (EnumPlan.make plan.names shorten) = .ok d.enums ∧
      ∃ set, ExtensionSet.empty.add plan.file.extensions = (set, .ok ()) ∧
        MessagePlan.makeAll plan.names shorten plan.file.messages set =
          (d.extensions, .ok d.messages) := by
  unfold declarations at h
  rcases hadd : ExtensionSet.empty.add plan.file.extensions with ⟨set, added⟩
  rw [hadd] at h
  obtain ⟨⟨⟩, hadded, h⟩ := Result.bind_eq_ok_iff.1 h
  obtain ⟨enums, henums, h⟩ := Result.bind_eq_ok_iff.1 h
  rcases hmake : MessagePlan.makeAll plan.names shorten plan.file.messages set with ⟨set', made⟩
  rw [hmake] at h
  obtain ⟨messages, hmessages, h⟩ := Result.bind_eq_ok_iff.1 h
  rw [Result.pure_eq, Except.ok.injEq] at h
  subst h
  refine ⟨henums, set, by rw [hadded], ?_⟩
  rw [hmake, hmessages]

/-- The plans of a file's declarations hold the first occurrences of its extensions. -/
theorem entries_of_declarations {shorten : Bool} {d : Declarations}
    (h : plan.declarations shorten = .ok d) :
    d.extensions.entries = plan.file.distinctExtensions := by
  obtain ⟨-, set, hadd, hmessages⟩ := declarations_eq_ok h
  rw [MessagePlan.entries_of_makeAll hmessages, ExtensionSet.entries_add_of_ok hadd,
    ← List.foldl_append, Schema.distinctExtensions, ← foldl_pushNew_nil]
  rfl

/-- What is printed for the declarations of a file declares all its types. -/
theorem declared_of_yields {shorten : Bool} {d : Declarations}
    (hplan : plan.declarations shorten = .ok d) (h : (plan.printDeclarations d).Yields p q) :
    ∃ ds, Printer.Printed p (TypeDeclaration.stepsAll ds) q ∧
      plan.file.DeclaredAs plan.names shorten ds := by
  obtain ⟨henums, set, -, hmessages⟩ := declarations_eq_ok hplan
  obtain ⟨r, hofEnums, hofMessages⟩ := Emission.yields_andThen.1 h
  obtain ⟨enums, hprintedEnums, hdeclaredEnums⟩ := EnumPlan.declaredAll_of_yields henums hofEnums
  obtain ⟨messages, hprintedMessages, hdeclaredMessages⟩ :=
    MessagePlan.declaredAll_of_yields hmessages hofMessages
  have hprinted := hprintedEnums.append hprintedMessages
  rw [← TypeDeclaration.stepsAll_append] at hprinted
  exact ⟨_, hprinted, enums, messages, rfl, hdeclaredEnums, hdeclaredMessages⟩

/-- What binds the package is printed by the steps that bind it. -/
theorem printed_package {bound : Bool} {package : String}
    (h : (if bound then Emission.lines ["", "fileprivate let _protobuf_package = \"" ++ package ++
      "\""] else .nothing).Yields p q) :
    Printer.Printed p (RuntimeSupport.packageSteps (if bound then some package else none)) q := by
  cases bound with
  | true =>
    obtain rfl := Emission.yields_lines.1 h
    exact .lines p _
  | false =>
    obtain rfl := Emission.yields_nothing.1 h
    exact .nil p

/-- The mark before the runtime support. -/
def supportMarkText (plan : FilePlan) : String :=
  "// MARK: - Code below here is support for the " ++ plan.names.runtimeModule ++ " runtime."

/-- What is printed as the runtime support of a file supports all its types. -/
theorem supported_of_yields {d : Declarations} (hplan : plan.declarations false = .ok d)
    (h : (plan.printRuntimeSupport d).Yields p q) :
    ∃ r : RuntimeSupport, Printer.Printed p r.steps q ∧
      plan.file.SupportedBy plan.names r ∧ r.opening = [.lines ["", plan.supportMarkText]] := by
  obtain ⟨henums, set, -, hmessages⟩ := declarations_eq_ok hplan
  obtain ⟨p₁, hmark, h⟩ := Emission.yields_all_cons.1 h
  obtain ⟨p₂, hpackage, h⟩ := Emission.yields_all_cons.1 h
  obtain ⟨p₃, hofEnums, h⟩ := Emission.yields_all_cons.1 h
  obtain ⟨p₄, hofMessages, hend⟩ := Emission.yields_all_cons.1 h
  obtain rfl := Emission.yields_all_nil.1 hend
  have hopening := Emission.hasSteps_lines _ _ _ hmark
  obtain ⟨enums, hprintedEnums, hsupportedEnums⟩ := EnumPlan.supported_of_yields henums hofEnums
  obtain ⟨messages, hprintedMessages, hsupportedMessages⟩ :=
    MessagePlan.supportedAll_of_yields hmessages hofMessages
  rw [MessagePlan.isEmpty_of_makeAll hmessages] at hpackage
  refine ⟨⟨_, _, enums, messages⟩, ?_, ⟨hsupportedEnums, hsupportedMessages, rfl⟩, rfl⟩
  exact hopening.append <| (printed_package hpackage).append <|
    hprintedEnums.append hprintedMessages

/-! ## The two profiles -/

/-- The steps of the mark before the runtime support, which has a blank line before it. The code of
a file that defines nothing has no support, and neither has the lite profile. -/
def markSteps (plan : FilePlan) : List Printer.Step :=
  if !plan.settings.isLite && plan.file.definesTypes then [.lines ["", plan.supportMarkText]]
  else []

/-- The steps between the header and the declarations in the lite profile. -/
def liteSteps (plan : FilePlan) : List Printer.Step :=
  if plan.file.definesTypes then [.lines ["import Foundation"]]
  else [.lines [], .lines [noDeclarations]]

/-- The steps between the imports and the declarations in the full profile. -/
def fullSteps (plan : FilePlan) (hasImports : Bool) : List Printer.Step :=
  if plan.file.definesTypes then [.lines [], .lines [plan.versionText]]
  else (if hasImports then [.lines []] else []) ++ [.lines [noDeclarations]]

/-- The steps between the header and the declarations. In the full profile they depend on the
imports of modules. -/
def Preamble (plan : FilePlan) (steps : List Printer.Step) : Prop :=
  if plan.settings.isLite then steps = plan.liteSteps
  else ∃ modules, plan.moduleImports = .ok modules ∧ steps = plan.importSteps modules ++
    plan.fullSteps (!plan.fixedImports.isEmpty || !modules.isEmpty)

/-- A file that defines nothing is printed by steps without declarations. -/
theorem code_of_nothing {steps : List Printer.Step} (hnone : plan.file.definesTypes = false)
    (h : Printer.Printed p steps q) (lite : Bool) :
    ∃ code : FileCode, Printer.Printed p code.steps q ∧
      code.Represents plan.names lite plan.shorten plan.file ∧ code.Opens steps [] :=
  ⟨⟨steps, [], [], .empty⟩, h.append (.nil q), FileCode.represents_of_nothing hnone _, ⟨rfl, rfl⟩⟩

/-- What is printed after the header in the lite profile is code that represents the file. -/
theorem code_of_liteBody (h : plan.liteBody.Yields p q) :
    ∃ code : FileCode, Printer.Printed p code.steps q ∧
      code.Represents plan.names true plan.shorten plan.file ∧ code.Opens plan.liteSteps [] := by
  unfold liteBody at h
  unfold liteSteps
  split at h
  · next hnone =>
    rw [Bool.not_eq_true'] at hnone
    rw [hnone, if_neg Bool.false_ne_true]
    have hsteps := (Emission.hasSteps_lines []).andThen <|
      (Emission.hasSteps_lines [noDeclarations]).andThen Emission.hasSteps_nothing
    exact code_of_nothing hnone (hsteps _ _ h) true
  · next hdefines =>
    rw [Bool.not_eq_true', Bool.not_eq_false] at hdefines
    obtain ⟨p₁, himport, h⟩ := Emission.yields_all_cons.1 h
    obtain ⟨p₂, hdeclarations, hend⟩ := Emission.yields_all_cons.1 h
    obtain rfl := Emission.yields_all_nil.1 hend
    have hopening := Emission.hasSteps_lines _ _ _ himport
    obtain ⟨d, hd, hdeclarations⟩ := Emission.yields_onValue.1 hdeclarations
    obtain ⟨ds, hprinted, hdeclared⟩ := declared_of_yields hd hdeclarations
    rw [hdefines, if_pos rfl]
    exact ⟨⟨_, ds, [], .empty⟩, hopening.append (hprinted.append (.nil _)),
      ⟨hdeclared, nofun, nofun, fun _ => ⟨rfl, rfl⟩⟩, rfl, rfl⟩

/-- What is printed after the imports in the full profile is code that represents the file. -/
theorem code_of_fullBody (hfull : plan.settings.isLite = false) {hasImports : Bool}
    (h : (plan.fullBody hasImports).Yields p q) :
    ∃ code : FileCode, Printer.Printed p code.steps q ∧
      code.Represents plan.names false plan.shorten plan.file ∧
      code.Opens (plan.fullSteps hasImports) plan.markSteps := by
  unfold fullBody at h
  unfold fullSteps markSteps
  rw [hfull, Bool.not_false, Bool.true_and]
  split at h
  · next hnone =>
    rw [Bool.not_eq_true'] at hnone
    rw [hnone, if_neg Bool.false_ne_true, if_neg Bool.false_ne_true]
    have hblank := Emission.hasSteps_ite (c := hasImports = true) (Emission.hasSteps_lines [])
      Emission.hasSteps_nothing
    have hsteps := hblank.andThen <|
      (Emission.hasSteps_lines [noDeclarations]).andThen Emission.hasSteps_nothing
    exact code_of_nothing hnone (hsteps _ _ h) false
  · next hdefines =>
    rw [Bool.not_eq_true', Bool.not_eq_false] at hdefines
    obtain ⟨p₁, hblank, h⟩ := Emission.yields_all_cons.1 h
    obtain ⟨p₂, hversion, h⟩ := Emission.yields_all_cons.1 h
    obtain ⟨p₃, hcode, hend⟩ := Emission.yields_all_cons.1 h
    obtain rfl := Emission.yields_all_nil.1 hend
    have hopening := (Emission.hasSteps_lines _ _ _ hblank).append
      (Emission.hasSteps_lines _ _ _ hversion)
    obtain ⟨d, hd, hcode⟩ := Emission.yields_onValue.1 hcode
    obtain ⟨p₄, hdeclarations, h⟩ := Emission.yields_all_cons.1 hcode
    obtain ⟨p₅, hextensions, h⟩ := Emission.yields_all_cons.1 h
    obtain ⟨p₆, hsupport, hend⟩ := Emission.yields_all_cons.1 h
    obtain rfl := Emission.yields_all_nil.1 hend
    obtain ⟨ds, hprinted, hdeclared⟩ := declared_of_yields hd hdeclarations
    obtain ⟨extensions, hprintedExtensions, hextended⟩ :=
      extensions_of_yields (entries_of_declarations hd) hextensions
    obtain ⟨support, hprintedSupport, hsupported, hmark⟩ := supported_of_yields hd hsupport
    rw [hdefines, if_pos rfl, if_pos rfl]
    exact ⟨⟨_, ds, extensions, support⟩,
      hopening.append (hprinted.append (hprintedExtensions.append hprintedSupport)),
      ⟨hdeclared, fun _ => hextended, fun _ => hsupported, nofun⟩, rfl, hmark⟩

/-- What is printed after the header in the full profile is code that represents the file. -/
theorem code_of_importsAndBody (hfull : plan.settings.isLite = false)
    (h : plan.importsAndBody.Yields p q) :
    ∃ (code : FileCode) (modules : List String), plan.moduleImports = .ok modules ∧
      Printer.Printed p code.steps q ∧
      code.Represents plan.names false plan.shorten plan.file ∧
      code.Opens (plan.importSteps modules ++
        plan.fullSteps (!plan.fixedImports.isEmpty || !modules.isEmpty)) plan.markSteps := by
  obtain ⟨p₁, hfixed, h⟩ := Emission.yields_andThen.1 h
  obtain ⟨modules, hmodules, h⟩ := Emission.yields_onValue.1 h
  obtain ⟨p₂, himports, hbody⟩ := Emission.yields_andThen.1 h
  have hopening := (hasSteps_linesIfAny _ _ _ hfixed).append
    (hasSteps_printModuleImports modules _ _ himports)
  obtain ⟨code, hprinted, hrepresents, hopens⟩ := code_of_fullBody hfull hbody
  exact ⟨code.after (plan.importSteps modules), modules, hmodules,
    FileCode.printed_after hopening hprinted, hrepresents.after _, hopens.after _⟩

/-- What is printed after the header of a file is code that represents it and begins with the
preamble. -/
theorem code_of_body
    (h : (if plan.settings.isLite then plan.liteBody else plan.importsAndBody).Yields p q) :
    ∃ (code : FileCode) (steps : List Printer.Step), plan.Preamble steps ∧
      Printer.Printed p code.steps q ∧
      code.Represents plan.names plan.settings.isLite plan.shorten plan.file ∧
      code.Opens steps plan.markSteps := by
  unfold Preamble
  cases hlite : plan.settings.isLite with
  | true =>
    rw [hlite, if_pos rfl] at h
    obtain ⟨code, hprinted, hrepresents, hopens⟩ := code_of_liteBody h
    refine ⟨code, _, rfl, hprinted, hrepresents, hopens.opening, ?_⟩
    rw [hopens.support, markSteps, hlite]
    rfl
  | false =>
    rw [hlite, if_neg Bool.false_ne_true] at h
    obtain ⟨code, modules, hmodules, hcode⟩ := code_of_importsAndBody hlite h
    exact ⟨code, _, ⟨modules, hmodules, rfl⟩, hcode⟩

end FilePlan

/-- The content is the code of the file as it is printed. The code begins with the header of the
file and its preamble, and its runtime support with the mark; it declares the types of the file and
has the code that belongs to them. -/
structure FileCode.IsCodeOf (code : FileCode) (plan : FilePlan) (content : String) : Prop where
  prints : code.Prints content
  opening : ∃ comment steps, plan.commentText = .ok comment ∧ plan.Preamble steps ∧
    code.opening = plan.headerSteps comment ++ steps
  mark : code.support.opening = plan.markSteps
  represents : code.Represents plan.names plan.settings.isLite plan.shorten plan.file

/-- What is printed for a file is its code, and its prefix has passed the check. -/
theorem FilePlan.code_of_output {plan : FilePlan} {q : Printer}
    (h : plan.output.Yields filePrinter q) :
    plan.checkPrefix = .ok () ∧ ∃ code : FileCode, code.IsCodeOf plan q.content := by
  obtain ⟨hcheck, r, hheader, hbody⟩ := yields_output h
  obtain ⟨comment, hcomment, hprintedHeader⟩ := steps_of_header hheader
  obtain ⟨code, steps, hpreamble, hprinted, hrepresents, hopens⟩ := code_of_body hbody
  have hafter := hopens.after (plan.headerSteps comment)
  exact ⟨hcheck, code.after (plan.headerSteps comment),
    ⟨q, (FileCode.printed_after hprintedHeader hprinted).runAll, rfl⟩,
    ⟨comment, steps, hcomment, hpreamble, hafter.opening⟩, hafter.support, hrepresents.after _⟩

/-- What a plan is made of. -/
theorem FilePlan.make_eq_ok {settings : Settings} {file : Schema} {plan : FilePlan}
    (h : make settings file = .ok plan) :
    NameTable.ofSchema file settings.modules settings.runtimeModule = .ok plan.names ∧
      plan.settings = settings ∧ plan.file = file := by
  obtain ⟨names, hnames, h⟩ := Result.bind_eq_ok_iff.1 h
  obtain ⟨shorten, -, h⟩ := Result.bind_eq_ok_iff.1 h
  cases h
  exact ⟨hnames, rfl, (NameTable.fields_of_ofSchema hnames).1⟩

/-- A file is generated if its plan is printed to the end. -/
theorem Schema.yields_of_generate {settings : Settings} {file : Schema}
    {name output content : String}
    (h : file.generate settings = .ok (.generated name output content)) :
    ∃ (plan : FilePlan) (printer : Printer), FilePlan.make settings file = .ok plan ∧
      plan.output.Yields filePrinter printer ∧ printer.content = content := by
  obtain ⟨plan, hplan, h⟩ := Result.bind_eq_ok_iff.1 h
  unfold FilePlan.outcome at h
  split at h
  · next printer hprinter =>
    cases h
    exact ⟨plan, printer, hplan, hprinter, rfl⟩
  · cases h
  · cases h

/-- The content of a file that is generated is its code, and its prefix has passed the check. -/
theorem Schema.code_of_generate {settings : Settings} {file : Schema} {name output content : String}
    (h : file.generate settings = .ok (.generated name output content)) :
    ∃ (plan : FilePlan) (code : FileCode), FilePlan.make settings file = .ok plan ∧
      plan.checkPrefix = .ok () ∧ code.IsCodeOf plan content := by
  obtain ⟨plan, printer, hplan, hyields, rfl⟩ := yields_of_generate h
  obtain ⟨hcheck, code, hcode⟩ := FilePlan.code_of_output hyields
  exact ⟨plan, code, hplan, hcheck, hcode⟩

end SchemaToSwift
