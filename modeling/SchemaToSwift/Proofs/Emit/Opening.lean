import SchemaToSwift.Emit.File
import SchemaToSwift.Proofs.Emit.Printed
import SchemaToSwift.Proofs.Printer.Script
import SchemaToSwift.Proofs.Text.Sealed

/-!
# What is printed before the declarations

Printing steps print texts, one after the other (`Printer.printedTexts`), and of an emission the
steps may be known before it is printed (`Emission.HasSteps`). A file begins with the steps of its
header, which is the banner and the comments at the top of the schema file
(`FilePlan.steps_of_header`), and then come those of its preamble, in which the imports stand.
-/

namespace SchemaToSwift

/-! ## Printed texts -/

namespace Printer

mutual

/-- The texts that a step prints, in order. A blank line has none. -/
def Step.printedTexts : Step → List String
  | .lines texts | .texts texts | .indentedLines texts | .indentedTexts texts => texts
  | .indent | .outdent => []
  | .block steps => printedTexts steps

/-- The texts that steps print, in order. -/
def printedTexts : List Step → List String
  | [] => []
  | s :: rest => s.printedTexts ++ printedTexts rest

end

/-- The texts of steps one after the other are those of each. -/
theorem printedTexts_append (xs ys : List Step) :
    printedTexts (xs ++ ys) = printedTexts xs ++ printedTexts ys := by
  induction xs with
  | nil => rfl
  | cons s rest ih => rw [List.cons_append, printedTexts, printedTexts, ih, List.append_assoc]

/-- A block after a blank line is one text. -/
theorem printedTexts_blockSteps (text : String) :
    printedTexts (blockSteps text) = [Text.dropTrailing '\n' text] := rfl

/-- What has been printed stays. -/
theorem exists_content_runAll {p q : Printer} {steps : List Step} {ok : Bool}
    (h : p.runAll steps = (q, ok)) : ∃ rest, q.content = p.content ++ rest := by
  rw [runAll_eq, follow] at h
  obtain ⟨rfl, -⟩ := Prod.mk.inj h
  refine ⟨String.ofList (scanAll p.unit p.atLineStart (scriptAll p.level steps).pieces), ?_⟩
  refine String.toList_injective ?_
  rw [String.toList_append, String.toList_ofList]
  exact content_write p _

end Printer

namespace Emission

/-- An emission that, printed to the end, is printed by these steps. -/
def HasSteps (a : Emission) (steps : List Printer.Step) : Prop :=
  ∀ p q, a.Yields p q → Printer.Printed p steps q

section
variable {a b : Emission} {xs ys : List Printer.Step}

/-- Nothing takes no steps. -/
theorem hasSteps_nothing : nothing.HasSteps [] := by
  intro p q h
  obtain rfl := yields_nothing.1 h
  exact .nil p

/-- Lines are one step, whatever the printer is. -/
theorem hasSteps_lines (texts : List String) : (lines texts).HasSteps [.lines texts] := by
  intro p q h
  obtain rfl := yields_lines.1 h
  exact .lines p texts

/-- So is a text. -/
theorem hasSteps_text (s : String) : (text s).HasSteps [.texts [s]] := by
  intro p q h
  obtain rfl := yields_text.1 h
  exact .text p s

/-- Emissions one after the other are printed by the steps of both. -/
theorem HasSteps.andThen (ha : a.HasSteps xs) (hb : b.HasSteps ys) :
    (a.andThen b).HasSteps (xs ++ ys) := by
  intro p q h
  obtain ⟨r, hr, hq⟩ := yields_andThen.1 h
  exact (ha p r hr).append (hb r q hq)

/-- Where a choice does not depend on the printer, neither do its steps. -/
theorem hasSteps_ite {c : Prop} [Decidable c] (ha : a.HasSteps xs) (hb : b.HasSteps ys) :
    (if c then a else b).HasSteps (if c then xs else ys) := by
  split
  · exact ha
  · exact hb

end

end Emission

/-! ## The banner -/

namespace BannerBlock

variable (b : BannerBlock)

/-- The lines of the banner that are the same for all files. -/
def fixedLines : List String := [
  "// DO NOT EDIT.",
  "// swift-format-ignore-file",
  "// swiftlint:disable all",
  "//",
  "// Generated by the Swift generator plugin for the protocol buffer compiler."]

/-- The banner is the fixed lines, and between them those of the file: its name as it is and the
mode. -/
theorem text_eq : b.text = "\n".intercalate (fixedLines ++
    ["// Source: " ++ b.source, "// Generation mode: " ++ b.mode, "//",
      "// For information on using the generated types, please see the documentation:"] ++
    ["//   " ++ b.documentation]) := rfl

/-- The banner ends with the address of the documentation. -/
theorem sealed_text {b : BannerBlock} (h : Text.Sealed b.documentation) : Text.Sealed b.text := by
  rw [text_eq]
  exact Text.Sealed.intercalate (h.append _) _ _

end BannerBlock

namespace FilePlan

variable (plan : FilePlan)

/-- The text of the banner. -/
def bannerText : String :=
  BannerBlock.text ⟨plan.file.name, Choice.profile.nameOf plan.settings.profile, documentation⟩

/-- The banner is printed as one text with a blank line after it. -/
theorem banner_eq : plan.banner = .lines [plan.bannerText ++ "\n"] := by
  have hend : Text.Sealed documentation := Text.sealed_of_last (by decide +kernel)
  have hsealed : Text.Sealed plan.bannerText := BannerBlock.sealed_text hend
  rw [banner, ← hsealed.dropTrailing]
  rfl

/-! ## Comments -/

/-- The text of the comments at the top of the schema file, empty if there are none. -/
def commentText : Except Fault String :=
  match plan.topComments with
  | none => .ok ""
  | some c => c.sourceText "///" (some "//")

/-- Prints the text of comments, with a blank line after it. -/
def printComment (text : String) : Emission :=
  if text = "" then .nothing
  else if "\n\n".toList.isSuffixOf text.toList then .text text
  else .lines [text]

/-- The comment is printed if it can be made. -/
theorem topComment_eq : plan.topComment = .onValue plan.commentText printComment := by
  unfold topComment commentText
  cases plan.topComments <;> rfl

/-! ## The header -/

/-- The steps that print the text of comments, with a blank line after it. -/
def commentSteps (text : String) : List Printer.Step :=
  if text = "" then []
  else if "\n\n".toList.isSuffixOf text.toList then [.texts [text]]
  else [.lines [text]]

/-- The steps of the header, given the text of the comments. -/
def headerSteps (comment : String) : List Printer.Step :=
  .lines [plan.bannerText ++ "\n"] :: commentSteps comment

/-- Prints the banner and the comments at the top of the schema file. -/
def header : Emission := .all [plan.banner, plan.topComment]

variable {plan : FilePlan} {p q : Printer}

/-- It takes the steps of its text. -/
theorem hasSteps_printComment (text : String) :
    (printComment text).HasSteps (commentSteps text) :=
  Emission.hasSteps_ite Emission.hasSteps_nothing <|
    Emission.hasSteps_ite (Emission.hasSteps_text text) (Emission.hasSteps_lines [text])

/-- The header is the banner with a blank line and then the comments. -/
theorem yields_header_iff : plan.header.Yields p q ↔
    ∃ comment, plan.commentText = .ok comment ∧
      (printComment comment).Yields (p.printLines [plan.bannerText ++ "\n"]) q := by
  rw [header, banner_eq, topComment_eq]
  constructor
  · intro h
    obtain ⟨r, hbanner, h⟩ := Emission.yields_all_cons.1 h
    obtain ⟨r', hcomment, hend⟩ := Emission.yields_all_cons.1 h
    obtain rfl := Emission.yields_all_nil.1 hend
    obtain rfl := Emission.yields_lines.1 hbanner
    exact Emission.yields_onValue.1 hcomment
  · intro h
    exact Emission.yields_all_cons.2 ⟨_, rfl, Emission.yields_all_cons.2
      ⟨q, Emission.yields_onValue.2 h, Emission.yields_all_nil.2 rfl⟩⟩

/-- The header is printed by its steps. -/
theorem steps_of_header (h : plan.header.Yields p q) :
    ∃ comment, plan.commentText = .ok comment ∧ Printer.Printed p (plan.headerSteps comment) q := by
  obtain ⟨comment, hcomment, hprinted⟩ := yields_header_iff.1 h
  exact ⟨comment, hcomment, (Printer.Printed.lines p _).cons
    (hasSteps_printComment comment _ _ hprinted)⟩

/-- A file is printed with its header first, if its prefix passes the check. -/
theorem yields_output (h : plan.output.Yields p q) :
    plan.checkPrefix = .ok () ∧ ∃ r, plan.header.Yields p r ∧
      (if plan.settings.isLite then plan.liteBody else plan.importsAndBody).Yields r q := by
  obtain ⟨checked, hcheck, h⟩ := Emission.yields_on.1 h
  obtain ⟨p₁, hbanner, h⟩ := Emission.yields_all_cons.1 h
  obtain ⟨p₂, hcomment, h⟩ := Emission.yields_all_cons.1 h
  obtain ⟨p₃, hbody, hend⟩ := Emission.yields_all_cons.1 h
  obtain rfl := Emission.yields_all_nil.1 hend
  exact ⟨hcheck, p₂, Emission.yields_all_cons.2 ⟨p₁, hbanner,
    Emission.yields_all_cons.2 ⟨p₂, hcomment, Emission.yields_all_nil.2 rfl⟩⟩, hbody⟩

/-! ## Imports -/

/-- The steps that print texts as lines, if there are any. -/
def stepsIfAny (texts : List String) : List Printer.Step :=
  if texts.isEmpty then [] else [.lines texts]

/-- The steps that print the imports, given those of modules. A blank line stands between them and
those of Foundation and of the runtime library. -/
def importSteps (plan : FilePlan) (modules : List String) : List Printer.Step :=
  stepsIfAny plan.fixedImports ++
    if modules.isEmpty then []
    else (if plan.fixedImports.isEmpty then [] else [.lines []]) ++ [.lines modules]

/-- Lines take a step if there are any. -/
theorem hasSteps_linesIfAny (texts : List String) :
    (linesIfAny texts).HasSteps (stepsIfAny texts) :=
  Emission.hasSteps_ite Emission.hasSteps_nothing (Emission.hasSteps_lines texts)

/-- The imports of modules take one, after a blank line where other imports stand before. -/
theorem hasSteps_printModuleImports (modules : List String) :
    (plan.printModuleImports modules).HasSteps (if modules.isEmpty then []
      else (if plan.fixedImports.isEmpty then [] else [.lines []]) ++ [.lines modules]) := by
  refine Emission.hasSteps_ite Emission.hasSteps_nothing ?_
  have hgap := Emission.hasSteps_ite (c := plan.fixedImports.isEmpty = true)
    Emission.hasSteps_nothing (Emission.hasSteps_lines [])
  have hlines := (Emission.hasSteps_lines modules).andThen Emission.hasSteps_nothing
  exact hgap.andThen hlines

/-- The texts of the imports are printed in order. -/
theorem printedTexts_importSteps (modules : List String) :
    Printer.printedTexts (plan.importSteps modules) = plan.fixedImports ++ modules := by
  have hgap :
      Printer.printedTexts (if plan.fixedImports.isEmpty then [] else [.lines []]) = [] := by
    split <;> rfl
  rw [importSteps, stepsIfAny, Printer.printedTexts_append]
  refine congrArg₂ (· ++ ·) ?_ ?_
  · split
    · next hempty => exact (List.isEmpty_iff.1 hempty).symm
    · exact List.append_nil _
  · split
    · next hempty => exact (List.isEmpty_iff.1 hempty).symm
    · rw [Printer.printedTexts_append, hgap]
      exact List.append_nil _

/-- The text of the check of the runtime version. -/
def versionText (plan : FilePlan) : String :=
  Text.dropTrailing '\n' (VersionBlock.text
    ⟨plan.names.runtimePrefix, plan.names.runtimeModule, toString compatibilityVersion⟩)

end FilePlan

end SchemaToSwift
