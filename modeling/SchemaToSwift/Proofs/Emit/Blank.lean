import SchemaToSwift.Outcome
import SchemaToSwift.Proofs.Emit.Printed
import SchemaToSwift.Proofs.Printer.Scan
import SchemaToSwift.Proofs.Schema.Typed
import SchemaToSwift.Proofs.Text.Point

/-!
# The output of a file that declares nothing

At the outermost level a printer adds texts as they are (`Printer.content_printLines`). So the
output of a file that declares nothing is its banner and one line (`generate_blank`), which differ
from those of other files by the name of the file only.
-/

namespace SchemaToSwift

/-! ## Printing without indentation -/

namespace Printer

/-- At the outermost level a text is added as it is. -/
theorem content_add {p : Printer} (h : p.level = 0) (text : String) :
    (p.add text).content = p.content ++ text := by
  have hmargin : p.margin = [] := by
    rw [margin, h]
    rfl
  refine String.toList_injective ?_
  rw [(scans_add p text).content, hmargin, scan_nil_margin, String.toList_append]

/-- At the outermost level a line of text is added with its end. -/
theorem content_printLines {p : Printer} (h : p.level = 0) (text : String) :
    (p.printLines [text]).content = p.content ++ text ++ "\n" := by
  have hadd : p.printLines [text] = (p.add text).add "\n" := rfl
  rw [hadd, content_add ((level_add p text).trans h), content_add h]

end Printer

/-! ## The output -/

namespace Schema

/-- The banner of a file in the full profile, up to the name of the file. -/
def bannerOpening : String := "\n".intercalate [
  "// DO NOT EDIT.", "// swift-format-ignore-file", "// swiftlint:disable all", "//",
  "// Generated by the Swift generator plugin for the protocol buffer compiler.", "// Source: "]

/-- The banner of a file in the full profile, after the name of the file. -/
def bannerClosing : String := "\n".intercalate [
  "", "// Generation mode: " ++ "full", "//",
  "// For information on using the generated types, please see the documentation:",
  "//   " ++ FilePlan.documentation]

/-- The output of a file that declares nothing, in the full profile. -/
def blankContent (name : String) : String :=
  bannerOpening ++ name ++ bannerClosing ++ "\n" ++ "\n" ++ FilePlan.noDeclarations ++ "\n"

/-- The banner of the full profile has the name of the file in one place. -/
theorem text_banner (name : String) :
    BannerBlock.text ⟨name, "full", FilePlan.documentation⟩ =
      bannerOpening ++ name ++ bannerClosing := by
  refine String.toList_injective ?_
  simp only [bannerOpening, bannerClosing, BannerBlock.text, String.toList_intercalate,
    List.map_cons, List.map_nil, List.intercalate_cons_cons, List.intercalate_singleton,
    String.toList_append, List.append_assoc, String.toList_empty, List.nil_append]

/-- So files that declare nothing have different contents if they have different names. -/
theorem blankContent_injective : Function.Injective blankContent := by
  intro a b h
  have htoList := congrArg String.toList h
  simp only [blankContent, String.toList_append, List.append_cancel_left_eq,
    List.append_cancel_right_eq] at htoList
  exact String.toList_injective htoList

theorem mark_not_mem_ofList {cs : List Char} (h : Text.mark ∉ cs) :
    Text.mark ∉ (String.ofList cs).toList := by
  rwa [String.toList_ofList]

/-- The output has bytes if the name of the file has. -/
theorem hasHalf_blankContent {name : String} (h : Text.mark ∉ name.toList) :
    Text.hasHalf (blankContent name) = false := by
  refine Text.hasHalf_of_noMark ?_
  simp only [blankContent, bannerOpening, bannerClosing, String.toList_intercalate, List.map_cons,
    List.map_nil, List.intercalate_cons_cons, List.intercalate_singleton, String.toList_append,
    List.mem_append, not_or]
  -- A literal is the text of a list of characters, and each of the lists is short.
  and_intros
  all_goals first
    | exact h
    | exact mark_not_mem_ofList (by decide)

/-- The banner does not end with a line feed. -/
theorem dropTrailing_banner (name : String) :
    Text.dropTrailing '\n' (bannerOpening ++ name ++ bannerClosing) =
      bannerOpening ++ name ++ bannerClosing := by
  have hlast : bannerClosing.toList.getLast? = some '/' := by
    simp only [bannerClosing, String.toList_intercalate, List.map_cons, List.map_nil,
      List.intercalate_cons_cons, List.intercalate_singleton, String.toList_append,
      List.getLast?_append]
    rfl
  obtain ⟨init, hinit⟩ := List.getLast?_eq_some_iff.1 hlast
  refine String.toList_injective ?_
  simp only [Text.dropTrailing, String.toList_append, hinit, String.toList_ofList]
  simp

/-- The plan of a file that declares nothing. -/
def blankPlan (name : String) : FilePlan where
  settings := Settings.default
  names := ⟨blank name, [], "SwiftProtobuf", .str "", []⟩
  shorten := false

/-- A file that declares nothing is the banner and the comment that says so. -/
theorem output_blank {name : String} (h : (blank name).isBundled = false) :
    (blankPlan name).output.Yields filePrinter
      ((filePrinter.printLines [bannerOpening ++ name ++ bannerClosing ++ "\n"]).printLines
        [FilePlan.noDeclarations]) := by
  have hfixed : (blankPlan name).fixedImports = [] := by
    have hbundled : (blankPlan name).file.isBundled = false := h
    rw [FilePlan.fixedImports, hbundled]
    rfl
  have hbanner : (blankPlan name).banner =
      .lines [bannerOpening ++ name ++ bannerClosing ++ "\n"] := by
    rw [← dropTrailing_banner name, ← text_banner name]
    rfl
  have hbody : (blankPlan name).importsAndBody = (blankPlan name).fullBody false := by
    rw [FilePlan.importsAndBody, hfixed]
    rfl
  have hcontents : (blankPlan name).output = (blankPlan name).contents := rfl
  rw [hcontents, FilePlan.contents, hbanner]
  change Emission.Yields (.all [_, _, (blankPlan name).importsAndBody]) _ _
  rw [hbody]
  rfl

/-- A file that declares nothing has an output. -/
theorem generate_blank {name : String} (h : (blank name).isBundled = false) :
    (blank name).generate Settings.default = .ok (.generated name
      (FileNaming.outputName .fullPath name FileNaming.swiftEnding) (blankContent name)) := by
  have hplan : FilePlan.make Settings.default (blank name) = .ok (blankPlan name) := rfl
  have hlevel : (filePrinter.printLines
      [bannerOpening ++ name ++ bannerClosing ++ "\n"]).level = 0 := Printer.level_printLines _ _
  have hempty : filePrinter.content = "" := rfl
  rw [generate, hplan, Result.bind_ok, FilePlan.outcome, output_blank h]
  dsimp only
  rw [Printer.content_printLines hlevel, Printer.content_printLines rfl, hempty,
    String.empty_append]
  rfl

end Schema

end SchemaToSwift
