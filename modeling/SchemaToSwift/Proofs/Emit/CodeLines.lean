import SchemaToSwift.Proofs.Emit.Blank
import SchemaToSwift.Proofs.Emit.CodeTexts
import SchemaToSwift.Proofs.Emit.OuterLines
import SchemaToSwift.Proofs.Schema.Comment

/-!
# The lines of generated code

In the full profile the lines of a generated file whose names are texts of one line are those of
blocks and comments, its import statements, and those that a line feed in the name of the schema
file begins. So a line that blocks do not have stands in the content as often as among the import
statements, unless it is a line of that name (`FilePlan.count_lines`). The lines of the name but the
first are lines of the content in any case, for the banner has the name as it is
(`FileCode.IsCodeOf.mem_lines_of_name`).
-/

namespace SchemaToSwift

open Text (EachLine)
open Printer (AllWhole allWhole_append outerTexts outerTexts_append)

/-! ## Comments -/

section
variable {marker : String} (hline : Text.OneLine marker) (hmark : IsMarked marker)
include hline hmark

/-- The lines of a comment have its marker. -/
theorem eachLine_markedLines (text : String) : EachLine IsBlockLine (markedLines marker text) := by
  have hlines : markedLines marker text =
      unlines ((commentLines text.toList).map fun line => marker ++ String.ofList line) := by
    rw [markedLines, unlines, List.map_map]
    rfl
  rw [hlines]
  refine eachLine_blockLines (List.forall_mem_map.2 fun line hmem => ⟨?_, .inr (.inr ?_)⟩)
  · have hfeed : '\n' ∉ line :=
      Text.not_mem_of_mem_splitAt ((List.rdropWhile_prefix _ _).subset hmem)
    exact Text.oneLine_append.2 ⟨hline, by rwa [Text.OneLine, String.toList_ofList]⟩
  · exact isMarked_append.2 (.inl hmark)

/-- So have those of a leading comment, if there is one. -/
theorem Comments.eachLine_leadingText {leading : Json} {text : String}
    (h : leadingText marker leading = .ok text) : EachLine IsBlockLine text := by
  unfold leadingText at h
  split at h
  · obtain ⟨comment, -, rfl⟩ := Result.map_eq_ok_iff.1 h
    exact eachLine_markedLines hline hmark comment
  · cases h
    exact Text.OneLine.eachLine (by decide) isBlockLine_empty

/-- The source text of comments has such lines and blank ones. -/
theorem Comments.eachLine_sourceText {detachedMarker : String}
    (hline' : Text.OneLine detachedMarker) (hmark' : IsMarked detachedMarker) {c : Comments}
    {text : String} (h : c.sourceText marker (some detachedMarker) = .ok text) :
    EachLine IsBlockLine text := by
  obtain ⟨detached, hdetached, h⟩ := Result.bind_eq_ok_iff.1 h
  obtain ⟨leading, hleading, h⟩ := Result.bind_eq_ok_iff.1 h
  obtain ⟨texts, -, hdetached⟩ := Result.bind_eq_ok_iff.1 hdetached
  cases h
  cases hdetached
  have hblocks : String.join (texts.map fun text => markedLines detachedMarker text ++ "\n") =
      unlines (texts.map (markedLines detachedMarker)) := by
    rw [unlines, List.map_map]
    rfl
  rw [hblocks]
  exact Text.eachLine_unlines_append
    (List.forall_mem_map.2 fun text _ => eachLine_markedLines hline' hmark' text)
    (eachLine_leadingText hline hmark hleading)

end

namespace FilePlan

variable {plan : FilePlan}

/-! ## The header -/

/-- The lines of the banner are comments, but for those that the name of the schema file brings
in. -/
theorem eachLine_bannerText (plan : FilePlan) : EachLine plan.IsOuterLine plan.bannerText := by
  have hsource : EachLine plan.IsOuterLine ("// Source: " ++ plan.file.name) :=
    eachLine_of_mark (by decide +kernel) (by decide +kernel) _
  have hfixed {line : String} (h : IsBlockLine line) : EachLine plan.IsOuterLine line :=
    h.1.eachLine (.inl h)
  rw [bannerText, BannerBlock.text_eq]
  refine Text.eachLine_intercalate (by simp) ?_
  simp only [List.forall_mem_append, List.forall_mem_cons, List.not_mem_nil, false_implies,
    implies_true, and_true]
  refine ⟨⟨fun line hline => hfixed ?_, hsource, hfixed ?_, hfixed ?_, hfixed ?_⟩, hfixed ?_⟩
  · have hall : ∀ line ∈ BannerBlock.fixedLines, IsBlockLine line := by decide +kernel
    exact hall line hline
  · cases plan.settings.profile <;> decide +kernel
  · decide +kernel
  · decide +kernel
  · decide +kernel

/-- So are those of the header. -/
theorem eachLine_headerSteps {comment : String} (h : plan.commentText = .ok comment) :
    ∀ text ∈ outerTexts (plan.headerSteps comment), EachLine plan.IsOuterLine text := by
  have hbanner : EachLine plan.IsOuterLine (plan.bannerText ++ "\n") := by
    have hlines := (Text.eachLine_feed (u := "")).2 ⟨plan.eachLine_bannerText,
      Text.OneLine.eachLine (by decide) (.inl isBlockLine_empty)⟩
    rwa [String.append_empty] at hlines
  have hcomment : EachLine IsBlockLine comment := by
    unfold commentText at h
    split at h
    · cases h
      exact Text.OneLine.eachLine (by decide) isBlockLine_empty
    · exact Comments.eachLine_sourceText (by decide) (by decide) (by decide) (by decide) h
  refine List.forall_mem_cons.2 ⟨hbanner, ?_⟩
  unfold commentSteps
  split
  · exact List.forall_mem_nil _
  · have hlines := hcomment.mono fun line hline => (Or.inl hline : plan.IsOuterLine line)
    split <;> exact List.forall_mem_singleton.2 hlines

/-- The header is printed by whole lines: a comment ends with a line feed where none is added. -/
theorem allWhole_headerSteps (comment : String) : AllWhole (plan.headerSteps comment) := by
  refine ⟨trivial, ?_⟩
  unfold commentSteps
  split
  · trivial
  · split
    · next hends =>
      obtain ⟨init, hinit⟩ := List.isSuffixOf_iff_suffix.1 hends
      refine ⟨List.forall_mem_singleton.2 ?_, trivial⟩
      rw [← hinit]
      simp
    · exact ⟨trivial, trivial⟩

/-! ## The imports -/

/-- So are the imports. -/
theorem allWhole_importSteps (modules : List String) : AllWhole (plan.importSteps modules) := by
  have hline (texts : List String) : AllWhole [.lines texts] := ⟨trivial, trivial⟩
  have hite {c : Prop} [Decidable c] {xs : List Printer.Step} (hx : AllWhole xs) :
      AllWhole (if c then [] else xs) := by
    split
    · trivial
    · exact hx
  exact allWhole_append.2 ⟨hite (hline _), hite (allWhole_append.2 ⟨hite (hline _), hline _⟩)⟩

/-- The imports are printed outside of blocks. -/
theorem outerTexts_importSteps (modules : List String) :
    outerTexts (plan.importSteps modules) = plan.fixedImports ++ modules := by
  have hall (texts : List String) : outerTexts (stepsIfAny texts) = texts := by
    unfold stepsIfAny
    split
    · next hempty => exact (List.isEmpty_iff.1 hempty).symm
    · exact List.append_nil _
  have hgap : outerTexts (if plan.fixedImports.isEmpty then [] else [.lines []]) = [] := by
    split <;> rfl
  rw [importSteps, outerTexts_append, hall]
  refine congrArg (plan.fixedImports ++ ·) ?_
  split
  · next hempty => exact (List.isEmpty_iff.1 hempty).symm
  · rw [outerTexts_append, hgap]
    exact List.append_nil _

/-! ## Counting -/

/-- A line that no text has does not count. -/
theorem count_eq_zero_of_eachLine {P : String → Prop} {texts : List String}
    (h : ∀ text ∈ texts, EachLine P text) {line : String} (hline : ¬ P line) :
    (texts.flatMap (Text.parts '\n')).count line = 0 := by
  refine List.count_eq_zero_of_not_mem fun hmem => ?_
  obtain ⟨text, htext, hpart⟩ := List.mem_flatMap.1 hmem
  exact hline (h text htext line hpart)

/-- The lines of a file that blocks do not have, and that are not of the file's name, are those of
its imports. -/
theorem count_lines (hfull : plan.settings.isLite = false) (hfile : plan.file.OneLine)
    (ht : plan.names.OneLine) {q : Printer} (h : plan.output.Yields filePrinter q) {line : String}
    {c : Char} {rest : List Char} (hchars : line.toList = c :: rest)
    (hc : ¬ (c = ' ' ∨ c = '\n' ∨ c = '\r')) (hline : ¬ plan.IsOuterLine line) :
    ∃ modules, plan.moduleImports = .ok modules ∧
      (Text.parts '\n' q.content).count line =
        ((plan.fixedImports ++ modules).flatMap (Text.parts '\n')).count line := by
  obtain ⟨-, p₁, hheader, hbody⟩ := yields_output h
  rw [hfull, if_neg Bool.false_ne_true] at hbody
  obtain ⟨p₂, hfixed, hbody⟩ := Emission.yields_andThen.1 hbody
  obtain ⟨modules, hmodules, hbody⟩ := Emission.yields_onValue.1 hbody
  obtain ⟨p₃, himports, hbody⟩ := Emission.yields_andThen.1 hbody
  obtain ⟨comment, hcomment, hprintedHeader⟩ := steps_of_header hheader
  have hprintedImports : Printer.Printed p₁ (plan.importSteps modules) p₃ :=
    (hasSteps_linesIfAny _ _ _ hfixed).append (hasSteps_printModuleImports modules _ _ himports)
  obtain ⟨steps, hprinted, hwhole, hlines⟩ := printsLines_fullBody hfile ht _ _ _ hbody
  refine ⟨modules, hmodules, ?_⟩
  have hrun := (hprintedHeader.append (hprintedImports.append hprinted)).runAll
  have hheaderWhole : AllWhole (plan.headerSteps comment) := allWhole_headerSteps comment
  have himportsWhole : AllWhole (plan.importSteps modules) := allWhole_importSteps modules
  have hall := allWhole_append.2 ⟨hheaderWhole, allWhole_append.2 ⟨himportsWhole, hwhole⟩⟩
  have hunit : "  ".toList = ' ' :: [' '] := rfl
  have hcount : (Text.parts '\n' q.content).count line = ((outerTexts (plan.headerSteps comment ++
      (plan.importSteps modules ++ steps))).flatMap (Text.parts '\n')).count line :=
    Printer.count_content hrun hall hunit (by decide) hchars hc
  rw [hcount, outerTexts_append, outerTexts_append, outerTexts_importSteps, List.flatMap_append,
    List.flatMap_append, List.count_append, List.count_append,
    count_eq_zero_of_eachLine (eachLine_headerSteps hcomment) hline,
    count_eq_zero_of_eachLine hlines hline, Nat.zero_add, Nat.add_zero]

end FilePlan

/-- The lines of the name of the schema file are lines of the content, but for the first one. -/
theorem FileCode.IsCodeOf.mem_lines_of_name {code : FileCode} {plan : FilePlan} {content : String}
    (h : code.IsCodeOf plan content) {line : String}
    (hline : line ∈ (Text.parts '\n' plan.file.name).tail) : line ∈ Text.parts '\n' content := by
  obtain ⟨comment, steps, -, -, hopening⟩ := h.opening
  obtain ⟨printer, hrun, rfl⟩ := h.prints
  obtain ⟨part, hpart, rfl⟩ : ∃ part ∈ (Text.splitAt '\n' plan.file.name.toList).tail,
      String.ofList part = line := by
    rwa [Text.parts, ← List.map_tail, List.mem_map] at hline
  have hsource : part ∈ Text.splitAt '\n' ("// Source: " ++ plan.file.name).toList := by
    rw [String.toList_append]
    exact List.mem_of_mem_tail ((Text.tail_splitAt_append '\n' _ _).subset hpart)
  have hbanner : part ∈ Text.splitAt '\n' plan.bannerText.toList := by
    have hseparator : "\n".toList = ['\n'] := rfl
    rw [FilePlan.bannerText, BannerBlock.text_eq, String.toList_intercalate, hseparator,
      Text.splitAt_intercalate_eq '\n' (by simp)]
    refine List.mem_flatMap.2 ⟨_, List.mem_map_of_mem ?_, hsource⟩
    exact List.mem_append_left _ (List.mem_append_right _ (.head _))
  -- the content begins with the banner
  rw [FileCode.steps, hopening, FilePlan.headerSteps, List.cons_append, List.cons_append,
    Printer.runAll, Printer.run] at hrun
  obtain ⟨rest, hcontent⟩ := Printer.exists_content_runAll
    (p := filePrinter.printLines [plan.bannerText ++ "\n"]) hrun
  have hchars : printer.content.toList =
      plan.bannerText.toList ++ '\n' :: ('\n' :: rest.toList) := by
    have hprinted : (filePrinter.printLines [plan.bannerText ++ "\n"]).content =
        filePrinter.content ++ (plan.bannerText ++ "\n") ++ "\n" := Printer.content_printLines rfl _
    rw [hcontent, hprinted, show filePrinter.content = "" from rfl, String.empty_append]
    simp
  rw [Text.parts, hchars, Text.splitAt_append_cons]
  exact List.mem_map_of_mem (List.mem_append_left _ hbanner)

end SchemaToSwift
