import SchemaToSwift.Proofs.Emit.Blocks
import SchemaToSwift.Proofs.Emit.Code

/-!
# The parts of a file

A file is printed part by part: in the full profile `FilePlan.opening`, the check of the runtime
version and `FilePlan.parts` (`FilePlan.yields_parts`). The last part ends with a line in either
profile (`FilePlan.endsWithLine_output`). The runtime support of a message is a list of parts as
well, those of nested enums and messages after its own.
-/

namespace SchemaToSwift

namespace Emission

@[simp] theorem all_nil : all [] = nothing := rfl

@[simp] theorem all_cons (a : Emission) (es : List Emission) :
    all (a :: es) = a.andThen (all es) := rfl

/-- Nothing before an emission leaves it as it is. -/
@[simp] theorem nothing_andThen (a : Emission) : nothing.andThen a = a := rfl

/-- So does nothing after it. -/
@[simp] theorem andThen_nothing (a : Emission) : a.andThen nothing = a := by
  funext p
  rcases ha : a p with ⟨q, _ | ⟨⟨⟩⟩⟩ <;> simp [andThen, nothing, ha]

/-- Of three emissions one after the other it does not matter which two are taken together; what
follows a failure is left out either way. -/
@[simp] theorem andThen_assoc (a b c : Emission) :
    (a.andThen b).andThen c = a.andThen (b.andThen c) := by
  funext p
  rcases ha : a p with ⟨q, _ | ⟨⟨⟩⟩⟩ <;> simp [andThen, ha]

/-- Lists of emissions are printed one after the other. -/
@[simp] theorem all_append (xs ys : List Emission) :
    all (xs ++ ys) = (all xs).andThen (all ys) := by
  induction xs with
  | nil => rfl
  | cons a rest ih => rw [List.cons_append, all_cons, all_cons, ih, andThen_assoc]

end Emission

open Emission (all)

/-! ## Messages -/

namespace MessagePlan

/-- Prints the runtime support of the message itself after a blank line. -/
def ownSupport (s : Surroundings) (hasPackage : Bool) (m : MessagePlan) : Emission :=
  all [
    .lines [],
    .onValue (m.swiftName.asText .noOperation) fun swiftName => .on m.fields fun fields =>
      .lines [Text.dropTrailing '\n' (runtimeBlock s hasPackage swiftName m.name fields).text]]

mutual

/-- The parts of the runtime support of a message: its own, and those of its enums and then of its
messages. -/
def supportParts (s : Surroundings) (hasPackage : Bool) : MessagePlan → List Emission
  | ⟨swiftName, name, fields, enums, messages⟩ =>
    ownSupport s hasPackage ⟨swiftName, name, fields, enums, messages⟩ ::
      (enums.map (·.runtimeSupport s) ++ supportPartsAll s hasPackage messages)

/-- The parts of the runtime support of the messages of a list. -/
def supportPartsAll (s : Surroundings) (hasPackage : Bool) : List MessagePlan → List Emission
  | [] => []
  | m :: ms => supportParts s hasPackage m ++ supportPartsAll s hasPackage ms

end

variable (s : Surroundings) (hasPackage : Bool)

mutual

/-- The runtime support of a message is made of its parts. -/
theorem runtimeSupport_eq_all : ∀ m : MessagePlan,
    runtimeSupport s hasPackage m = all (supportParts s hasPackage m)
  | ⟨swiftName, name, fields, enums, messages⟩ => by
    rw [runtimeSupport, runtimeSupports_eq_all messages, supportParts]
    simp [ownSupport]

theorem runtimeSupports_eq_all : ∀ ms : List MessagePlan,
    runtimeSupports s hasPackage ms = all (supportPartsAll s hasPackage ms)
  | [] => rfl
  | m :: ms => by
    rw [runtimeSupports, runtimeSupport_eq_all m, runtimeSupports_eq_all ms, supportPartsAll,
      Emission.all_append]

end

/-- The runtime support of a message itself is a block. -/
theorem block_ownSupport (m : MessagePlan) : (m.ownSupport s hasPackage).Block :=
  (Emission.closing_onValue fun _ _ => Emission.closing_on fun _ _ =>
    Emission.closing_line (MessageRuntimeBlock.sealed_text _)).all_singleton.block

mutual

/-- All parts of the runtime support of a message are blocks. -/
theorem block_supportParts : ∀ m : MessagePlan, ∀ a ∈ supportParts s hasPackage m, a.Block
  | ⟨swiftName, name, fields, enums, messages⟩ => by
    rw [supportParts, List.forall_mem_cons, List.forall_mem_append, List.forall_mem_map]
    exact ⟨block_ownSupport s hasPackage _, fun plan _ => plan.block_runtimeSupport s,
      block_supportPartsAll messages⟩

/-- So is every part of the runtime support of messages. -/
theorem block_supportPartsAll : ∀ ms : List MessagePlan,
    ∀ a ∈ supportPartsAll s hasPackage ms, a.Block
  | [] => nofun
  | m :: ms => by
    rw [supportPartsAll, List.forall_mem_append]
    exact ⟨block_supportParts m, block_supportPartsAll ms⟩

end

end MessagePlan

/-! ## Files -/

namespace FilePlan

variable (plan : FilePlan)

/-- What stands before the check of the runtime version in the full profile. -/
def opening (modules : List String) : List Emission := [
  plan.banner,
  plan.topComment,
  linesIfAny plan.fixedImports,
  plan.printModuleImports modules,
  .lines []]

/-- Prints the declarations of enums and of messages. -/
def declarationParts (d : Declarations) : List Emission :=
  d.enums.map (·.declaration plan.surroundings) ++ d.messages.map (·.declaration plan.surroundings)

/-- Prints the code for the extensions of the file: the mark before it, the accessors, the table and
the extension objects. -/
def extensionParts (set : ExtensionSet) : List Emission := [
  .lines ["", "// MARK: - Extension support defined in " ++
    (FileName.split plan.file.name).withoutFolder ++ "."],
  set.properties plan.names plan.surroundings,
  set.registry plan.names plan.surroundings,
  set.objects plan.names plan.surroundings]

/-- Prints the mark before the runtime support. -/
def supportMark : Emission :=
  .lines ["", "// MARK: - Code below here is support for the " ++ plan.names.runtimeModule ++
    " runtime."]

/-- Binds the package. -/
def packageBinding : Emission :=
  .lines ["", "fileprivate let _protobuf_package = \"" ++ plan.file.package.display ++ "\""]

/-- Prints the runtime support of the file. -/
def supportParts (d : Declarations) : List Emission :=
  plan.supportMark ::
    ((if plan.hasPackage && !d.messages.isEmpty then [plan.packageBinding] else []) ++
      (d.enums.map (·.runtimeSupport plan.surroundings) ++
        MessagePlan.supportPartsAll plan.surroundings plan.hasPackage d.messages))

/-- What stands after the check of the runtime version: the declarations, the code for extensions if
there are any in the file, and the runtime support. -/
def parts (d : Declarations) : List Emission :=
  plan.declarationParts d ++
    ((if plan.file.allExtensions.isEmpty then [] else plan.extensionParts d.extensions) ++
      plan.supportParts d)

variable {plan : FilePlan} {p q : Printer}

/-! ### The kinds of the parts -/

section
variable {P : List Printer.Piece → Prop} (hP : Printer.OfLines P)
include hP

theorem writing_lines_if (c : Prop) [Decidable c] (texts : List String) :
    (if c then Emission.nothing else .lines texts).Writing P := by
  split
  · exact Emission.writing_nothing hP.toAdditive
  · exact Emission.writing_lines hP texts

/-- The comment on the file is written as whatever lines have. -/
theorem writing_topComment : plan.topComment.Writing P := by
  unfold topComment
  split
  · exact Emission.writing_nothing hP.toAdditive
  · refine Emission.writing_onValue hP.toAdditive fun text _ => ?_
    split
    · exact Emission.writing_nothing hP.toAdditive
    · split
      · next hend =>
        obtain ⟨before, hbefore⟩ := List.isSuffixOf_iff_suffix.1 hend
        refine Emission.writing_text hP ?_
        rw [← hbefore, List.getLast?_append]
        rfl
      · exact Emission.writing_lines hP _

/-- So is the header. -/
theorem writing_header : plan.header.Writing P := by
  refine Emission.writing_all hP.toAdditive ?_
  simp only [List.forall_mem_cons]
  exact ⟨Emission.writing_lines hP _, writing_topComment hP, nofun⟩

/-- So are the import statements. -/
theorem writing_printModuleImports (modules : List String) :
    (plan.printModuleImports modules).Writing P := by
  unfold printModuleImports
  split
  · exact Emission.writing_nothing hP.toAdditive
  · refine Emission.writing_all hP.toAdditive ?_
    simp only [List.forall_mem_cons]
    exact ⟨writing_lines_if hP _ [], Emission.writing_lines hP modules, nofun⟩

/-- So are the parts of the code for extensions. -/
theorem writing_extensionParts (set : ExtensionSet) :
    ∀ a ∈ plan.extensionParts set, a.Writing P := by
  simp only [extensionParts, List.forall_mem_cons]
  exact ⟨Emission.writing_lines hP _, Emission.writing_onValue hP.toAdditive fun _ _ =>
    Emission.writing_block hP, Emission.writing_block hP, Emission.writing_block hP, nofun⟩

end

/-- The parts before the version check are settled: what they print is the same wherever they
begin. -/
theorem settled_opening (modules : List String) :
    ∀ a ∈ plan.opening modules, a.Writing Printer.Settled := by
  simp only [opening, List.forall_mem_cons]
  exact ⟨Emission.settled_lines _, writing_topComment Printer.ofLines_settled,
    writing_lines_if Printer.ofLines_settled _ _,
    writing_printModuleImports Printer.ofLines_settled modules, Emission.settled_lines _, nofun⟩

/-- Declarations are blocks. -/
theorem block_declarationParts {shorten : Bool} {d : Declarations}
    (h : plan.declarations shorten = .ok d) : ∀ a ∈ plan.declarationParts d, a.Block := by
  obtain ⟨-, set, -, hmessages⟩ := declarations_eq_ok h
  rw [declarationParts, List.forall_mem_append, List.forall_mem_map, List.forall_mem_map]
  exact ⟨fun e _ => e.block_declaration _, MessagePlan.block_of_makeAll _ hmessages⟩

/-- A mark or a block is settled and ends with a line. -/
theorem closing_supportParts (d : Declarations) :
    ∀ a ∈ plan.supportParts d, a.Closing ∧ a.Writing Printer.Settled := by
  have hblock {a : Emission} (h : a.Block) : a.Closing ∧ a.Writing Printer.Settled :=
    ⟨h.closing, h.settled⟩
  have hmark {s : String} (h : Text.Sealed s) :
      (Emission.lines ["", s]).Closing ∧ (Emission.lines ["", s]).Writing Printer.Settled :=
    ⟨Emission.closing_lines (List.forall_mem_singleton.2 (by simp)) h, Emission.settled_lines _⟩
  rw [supportParts, List.forall_mem_cons, List.forall_mem_append, List.forall_mem_append,
    List.forall_mem_map]
  refine ⟨hmark ?_, ?_, fun e _ => hblock (e.block_runtimeSupport _),
    fun a ha => hblock (MessagePlan.block_supportPartsAll _ _ _ a ha)⟩
  · exact Text.Sealed.append (Text.sealed_of_last rfl) _
  · split
    · exact List.forall_mem_singleton.2 (hmark (Text.Sealed.append (Text.sealed_of_last rfl) _))
    · exact nofun

/-- So are the parts after the version check. -/
theorem settled_parts {d : Declarations} (h : plan.declarations false = .ok d) :
    ∀ a ∈ plan.parts d, a.Writing Printer.Settled := by
  rw [parts, List.forall_mem_append, List.forall_mem_append]
  refine ⟨fun a ha => (block_declarationParts h a ha).settled, ?_,
    fun a ha => (closing_supportParts d a ha).2⟩
  split
  · exact nofun
  · exact writing_extensionParts Printer.ofLines_settled d.extensions

/-! ### The parts in order -/

/-- The declarations hold an extension if and only if the file does. -/
theorem isEmpty_extensions {shorten : Bool} {d : Declarations}
    (h : plan.declarations shorten = .ok d) :
    d.extensions.isEmpty = plan.file.allExtensions.isEmpty := by
  rw [ExtensionSet.isEmpty, entries_of_declarations h, Schema.distinctExtensions]
  cases plan.file.allExtensions with
  | nil => rfl
  | cons x rest => rw [firstOccurrences_cons]; rfl

/-- The declarations are made of their parts. -/
theorem printDeclarations_eq_all (d : Declarations) :
    plan.printDeclarations d = all (plan.declarationParts d) := by
  rw [printDeclarations, MessagePlan.declarations_eq_all, declarationParts, Emission.all_append]

/-- So is the code for extensions, which is left out in a file without any. -/
theorem printExtensions_eq_all {set : ExtensionSet}
    (h : set.isEmpty = plan.file.allExtensions.isEmpty) :
    plan.printExtensions set =
      all (if plan.file.allExtensions.isEmpty then [] else plan.extensionParts set) := by
  rw [printExtensions, h]
  split <;> rfl

/-- So is the runtime support. -/
theorem printRuntimeSupport_eq_all (d : Declarations) :
    plan.printRuntimeSupport d = all (plan.supportParts d) := by
  rw [printRuntimeSupport, MessagePlan.runtimeSupports_eq_all, supportParts]
  split <;> simp [supportMark, packageBinding]

/-- What a file with declarations has after its imports is a blank line, the version check and the
parts. -/
theorem yields_fullBody {hasImports : Bool} (hdefines : plan.file.definesTypes = true)
    (h : (plan.fullBody hasImports).Yields p q) :
    ∃ d, plan.declarations false = .ok d ∧
      (all (.lines [] :: plan.versionCheck :: plan.parts d)).Yields p q := by
  rw [fullBody, hdefines, Bool.not_true, if_neg Bool.false_ne_true] at h
  obtain ⟨p₁, hblank, h⟩ := Emission.yields_all_cons.1 h
  obtain ⟨p₂, hversion, h⟩ := Emission.yields_all_cons.1 h
  obtain ⟨p₃, hcode, hend⟩ := Emission.yields_all_cons.1 h
  obtain rfl := Emission.yields_all_nil.1 hend
  obtain ⟨d, hd, hcode⟩ := Emission.yields_onValue.1 hcode
  have hparts : (all (plan.parts d)).Yields p₂ p₃ := by
    rw [parts, Emission.all_append, Emission.all_append, ← printDeclarations_eq_all,
      ← printExtensions_eq_all (isEmpty_extensions hd), ← printRuntimeSupport_eq_all]
    simpa using hcode
  exact ⟨d, hd, Emission.yields_all_cons.2 ⟨p₁, hblank,
    Emission.yields_all_cons.2 ⟨p₂, hversion, hparts⟩⟩⟩

/-- A file that declares something is printed part by part in the full profile. -/
theorem yields_parts (hfull : plan.settings.isLite = false)
    (hdefines : plan.file.definesTypes = true) (h : plan.output.Yields p q) :
    ∃ modules d, plan.moduleImports = .ok modules ∧ plan.declarations false = .ok d ∧
      (all (plan.opening modules ++ plan.versionCheck :: plan.parts d)).Yields p q := by
  obtain ⟨checked, -, h⟩ := Emission.yields_on.1 h
  rw [contents, hfull, if_neg Bool.false_ne_true] at h
  obtain ⟨p₁, hbanner, h⟩ := Emission.yields_all_cons.1 h
  obtain ⟨p₂, hcomment, h⟩ := Emission.yields_all_cons.1 h
  obtain ⟨p₃, hbody, hend⟩ := Emission.yields_all_cons.1 h
  obtain rfl := Emission.yields_all_nil.1 hend
  obtain ⟨p₄, hfixed, h⟩ := Emission.yields_andThen.1 hbody
  obtain ⟨modules, hmodules, h⟩ := Emission.yields_onValue.1 h
  obtain ⟨p₅, himports, h⟩ := Emission.yields_andThen.1 h
  obtain ⟨d, hd, hparts⟩ := yields_fullBody hdefines h
  exact ⟨modules, d, hmodules, hd, Emission.yields_all_cons.2 ⟨p₁, hbanner,
    Emission.yields_all_cons.2 ⟨p₂, hcomment, Emission.yields_all_cons.2 ⟨p₄, hfixed,
      Emission.yields_all_cons.2 ⟨p₅, himports, hparts⟩⟩⟩⟩⟩

end FilePlan

/-! ## The end of a file -/

/-- One printer comes from the other by settled parts, at least one of which is followed by none
that do not end with a line, and ends with a line itself. -/
def Printer.EndsWithLine (p q : Printer) : Prop :=
  ∃ before last, (all (before ++ last)).Yields p q ∧ last ≠ [] ∧
    (∀ a ∈ before, a.Writing Settled) ∧ ∀ a ∈ last, a.Closing ∧ a.Writing Settled

/-- What ends with a line still does after settled text. -/
theorem Printer.EndsWithLine.after {p q r : Printer} (h : EndsWithLine r q) {a : Emission}
    (ha : a.Writing Settled) (hr : a.Yields p r) : EndsWithLine p q := by
  obtain ⟨before, last, hyields, hne, hbefore, hlast⟩ := h
  exact ⟨a :: before, last, Emission.yields_all_cons.2 ⟨r, hr, hyields⟩, hne,
    List.forall_mem_cons.2 ⟨ha, hbefore⟩, hlast⟩

namespace FilePlan

variable {plan : FilePlan} {p q : Printer}

/-- A file without declarations ends with the comment that says so. -/
theorem endsWithLine_noDeclarations (h : (Emission.lines [noDeclarations]).Yields p q) :
    p.EndsWithLine q := by
  refine ⟨[], [.lines [noDeclarations]], Emission.yields_all_cons.2 ⟨q, h,
    Emission.yields_all_nil.2 rfl⟩, List.cons_ne_nil _ _, nofun, List.forall_mem_singleton.2 ?_⟩
  exact ⟨Emission.closing_line (Text.sealed_of_last rfl), Emission.settled_lines _⟩

/-- In the lite profile a file ends with a line. -/
theorem endsWithLine_liteBody (h : plan.liteBody.Yields p q) : p.EndsWithLine q := by
  unfold liteBody at h
  split at h
  · obtain ⟨p₁, hblank, h⟩ := Emission.yields_all_cons.1 h
    obtain ⟨p₂, hnone, hend⟩ := Emission.yields_all_cons.1 h
    obtain rfl := Emission.yields_all_nil.1 hend
    exact (endsWithLine_noDeclarations hnone).after (Emission.settled_lines []) hblank
  · obtain ⟨p₁, himport, h⟩ := Emission.yields_all_cons.1 h
    obtain ⟨p₂, hdeclarations, hend⟩ := Emission.yields_all_cons.1 h
    obtain rfl := Emission.yields_all_nil.1 hend
    obtain ⟨d, hd, hdeclarations⟩ := Emission.yields_onValue.1 hdeclarations
    rw [printDeclarations_eq_all] at hdeclarations
    refine ⟨[], _ :: plan.declarationParts d,
      Emission.yields_all_cons.2 ⟨p₁, himport, hdeclarations⟩, List.cons_ne_nil _ _, nofun,
      List.forall_mem_cons.2 ⟨?_, fun a ha => ?_⟩⟩
    · exact ⟨Emission.closing_line (Text.sealed_of_last rfl), Emission.settled_lines _⟩
    · have hblock := block_declarationParts hd a ha
      exact ⟨hblock.closing, hblock.settled⟩

/-- So it does in the full profile. -/
theorem endsWithLine_fullBody {hasImports : Bool} (h : (plan.fullBody hasImports).Yields p q) :
    p.EndsWithLine q := by
  by_cases hdefines : plan.file.definesTypes = true
  · obtain ⟨d, hd, hparts⟩ := yields_fullBody hdefines h
    refine ⟨.lines [] :: plan.versionCheck :: (plan.declarationParts d ++
      if plan.file.allExtensions.isEmpty then [] else plan.extensionParts d.extensions),
      plan.supportParts d, ?_, List.cons_ne_nil _ _, ?_, closing_supportParts d⟩
    · simpa [parts] using hparts
    · simp only [List.forall_mem_cons, List.forall_mem_append]
      refine ⟨Emission.settled_lines _, Emission.settled_lines _,
        fun a ha => (block_declarationParts hd a ha).settled, ?_⟩
      split
      · exact nofun
      · exact writing_extensionParts Printer.ofLines_settled d.extensions
  · rw [fullBody, Bool.eq_false_iff.2 hdefines, Bool.not_false, if_pos rfl] at h
    obtain ⟨p₁, hblank, h⟩ := Emission.yields_all_cons.1 h
    obtain ⟨p₂, hnone, hend⟩ := Emission.yields_all_cons.1 h
    obtain rfl := Emission.yields_all_nil.1 hend
    refine (endsWithLine_noDeclarations hnone).after ?_ hblank
    split
    · exact Emission.settled_lines []
    · exact Emission.writing_nothing Printer.additive_settled

/-- What is printed after the comments ends with a line in either profile. -/
theorem endsWithLine_body
    (h : (if plan.settings.isLite then plan.liteBody else plan.importsAndBody).Yields p q) :
    p.EndsWithLine q := by
  split at h
  · exact endsWithLine_liteBody h
  · obtain ⟨p₁, hfixed, h⟩ := Emission.yields_andThen.1 h
    obtain ⟨modules, -, h⟩ := Emission.yields_onValue.1 h
    obtain ⟨p₂, himports, h⟩ := Emission.yields_andThen.1 h
    have hbody := (endsWithLine_fullBody h).after
      (writing_printModuleImports Printer.ofLines_settled modules) himports
    exact hbody.after (writing_lines_if Printer.ofLines_settled _ _) hfixed

/-- What is printed of a file ends with a line. -/
theorem endsWithLine_output (h : plan.output.Yields p q) : p.EndsWithLine q := by
  obtain ⟨-, r, hheader, hbody⟩ := yields_output h
  exact (endsWithLine_body hbody).after (writing_header Printer.ofLines_settled) hheader

end FilePlan

end SchemaToSwift
