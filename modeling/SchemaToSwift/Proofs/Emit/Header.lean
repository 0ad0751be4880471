import SchemaToSwift.Proofs.Emit.Blank
import SchemaToSwift.Proofs.Emit.Code
import SchemaToSwift.Proofs.Emit.File
import SchemaToSwift.Proofs.Emit.Written
import SchemaToSwift.Proofs.Schema.Comment
import SchemaToSwift.Proofs.Swift.Lines

/-!
# The header of a file

A file begins with a banner, which names the schema file, and with the comments at the top of the
schema file. Both put texts of the schema file into line comments as they are. The header is made of
comments exactly if the name and each line of the comments stay in the comments that they are put
into (`Schema.isComments_header`); a line break in the name and a carriage return in a comment begin
a line of their own.
-/

namespace SchemaToSwift

open Emission (freshText)

/-! ## The banner -/

namespace BannerBlock

variable (b : BannerBlock)

/-- The banner is made of comments exactly if what it is filled with stays in them. -/
theorem isComments_text : Swift.IsComments b.text.toList ↔
    Swift.StaysInComment b.source.toList ∧ Swift.StaysInComment b.mode.toList ∧
      Swift.StaysInComment b.documentation.toList := by
  have hfilled {before : String} (hmark : ['/', '/'] <+: before.toList)
      (hbreak : before.toList.any Swift.isLineBreak = false) (s : String) :
      Swift.IsComments (before ++ s).toList ↔ Swift.StaysInComment s.toList := by
    rw [String.toList_append]
    exact Swift.isComments_append_iff hmark hbreak s.toList
  have hfixed : ∀ line ∈ fixedLines.map String.toList, Swift.IsComments line := by decide +kernel
  have hempty : Swift.IsComments "//".toList := by decide
  have hdocumented : Swift.IsComments
      "// For information on using the generated types, please see the documentation:".toList := by
    decide +kernel
  have hseparator : "\n".toList = ['\n'] := rfl
  rw [text_eq, String.toList_intercalate, hseparator, Swift.isComments_intercalate]
  simp only [List.map_append, List.map_cons, List.map_nil, List.forall_mem_append,
    List.forall_mem_cons, List.not_mem_nil, false_implies, implies_true, and_true, hempty,
    hdocumented]
  rw [and_iff_right hfixed, hfilled (by decide) (by decide), hfilled (by decide) (by decide),
    hfilled (by decide) (by decide), and_assoc]

end BannerBlock

namespace FilePlan

variable (plan : FilePlan)

/-- What is printed as the header. -/
def headerText : String := freshText filePrinter.unit plan.header

variable {plan : FilePlan} {p q : Printer}

/-- The banner is made of comments exactly if the name of the schema file stays in the one that it
is put into. -/
theorem isComments_bannerText :
    Swift.IsComments plan.bannerText.toList ↔ Swift.StaysInComment plan.file.name.toList := by
  have hmode : Swift.StaysInComment (Choice.profile.nameOf plan.settings.profile).toList := by
    cases plan.settings.profile <;> decide +kernel
  have hdocumentation : Swift.StaysInComment documentation.toList := by decide +kernel
  rw [bannerText, BannerBlock.isComments_text]
  exact and_iff_left ⟨hmode, hdocumentation⟩

/-! ## The header and what follows it -/

theorem content_of_header (h : plan.header.Yields filePrinter q) : q.content = plan.headerText :=
  (congrArg (·.1.content) h).symm

theorem level_of_header (h : plan.header.Yields p q) : q.level = p.level := by
  obtain ⟨comment, -, hprinted⟩ := steps_of_header h
  exact hprinted.level

/-- The header is printed if its comments have a text. -/
theorem exists_header_of_commentText {comment : String} (h : plan.commentText = .ok comment) :
    ∃ q, plan.header.Yields filePrinter q ∧
      Printer.Printed filePrinter (plan.headerSteps comment) q := by
  obtain ⟨q, hq⟩ : ∃ q, (printComment comment).Yields
      (filePrinter.printLines [plan.bannerText ++ "\n"]) q := by
    unfold printComment
    split
    · exact ⟨_, rfl⟩
    · split <;> exact ⟨_, rfl⟩
  have hheader : plan.header.Yields filePrinter q := yields_header_iff.2 ⟨comment, h, hq⟩
  obtain ⟨comment', hcomment', hprinted⟩ := steps_of_header hheader
  obtain rfl := Except.ok.inj (h.symm.trans hcomment')
  exact ⟨q, hheader, hprinted⟩

/-- The content of a file begins with its header. -/
theorem content_of_output_header (h : plan.output.Yields filePrinter q) :
    ∃ rest, q.content = plan.headerText ++ rest := by
  obtain ⟨-, r, hheader, hbody⟩ := yields_output h
  obtain ⟨code, texts, -, hprinted, -⟩ := code_of_body hbody
  rw [← content_of_header hheader]
  exact Printer.exists_content_runAll hprinted.runAll

/-- The header ends with the end of a line. -/
theorem exists_line_of_header (h : plan.header.Yields filePrinter q) :
    ∃ before, plan.headerText = before ++ "\n" := by
  rw [← content_of_header h]
  obtain ⟨comment, -, hprinted⟩ := yields_header_iff.1 h
  have hlevel : (filePrinter.printLines [plan.bannerText ++ "\n"]).level = 0 :=
    Printer.level_printLines filePrinter _
  unfold printComment at hprinted
  split at hprinted
  · obtain rfl := Emission.yields_nothing.1 hprinted
    exact ⟨_, Printer.content_printLines rfl _⟩
  · split at hprinted
    · next hends =>
      obtain rfl := Emission.yields_text.1 hprinted
      obtain ⟨init, hinit⟩ := List.isSuffixOf_iff_suffix.1 hends
      have htext : comment = String.ofList (init ++ ['\n']) ++ "\n" := by
        refine String.toList_injective ?_
        rw [← hinit]
        simp
      refine ⟨(filePrinter.printLines [plan.bannerText ++ "\n"]).content ++
        String.ofList (init ++ ['\n']), ?_⟩
      rw [String.append_assoc, ← htext]
      exact Printer.content_add hlevel comment
    · obtain rfl := Emission.yields_lines.1 hprinted
      exact ⟨_, Printer.content_printLines hlevel comment⟩

/-! ## Comments -/

/-- What is printed of comments at the outermost level. -/
theorem yields_printComment {p : Printer} (hp : p.level = 0) (text : String) :
    ∃ q printed, (printComment text).Yields p q ∧ q.content = p.content ++ printed ∧
      (Swift.IsComments printed.toList ↔ Swift.IsComments text.toList) := by
  unfold printComment
  split
  · next hempty => exact ⟨p, "", rfl, String.append_empty.symm, by rw [hempty]⟩
  · split
    · exact ⟨_, text, rfl, Printer.content_add hp text, .rfl⟩
    · refine ⟨_, text ++ "\n", rfl, ?_, ?_⟩
      · rw [← String.append_assoc]
        exact Printer.content_printLines hp text
      · rw [String.toList_append]
        exact (Swift.isComments_append_lineFeed text.toList []).trans
          (and_iff_left Swift.isComments_nil)

end FilePlan

/-- Marked lines are comments exactly if the lines of the comment stay in them. -/
theorem isComments_markedBlock {marker : String} (hmark : ['/', '/'] <+: marker.toList)
    (hbreak : marker.toList.any Swift.isLineBreak = false) (comment : String) :
    (∀ line ∈ markedBlock marker comment, Swift.IsComments line) ↔
      ∀ line ∈ Text.splitAt '\n' comment.toList, Swift.StaysInComment line := by
  rw [← forall_mem_commentLines Swift.staysInComment_nil, markedBlock, List.forall_mem_map]
  exact forall₂_congr fun line _ => Swift.isComments_append_iff hmark hbreak line

/-- Comments each of whose lines stays in a comment that it is put into. -/
def Comments.StayInComment (c : Comments) : Prop :=
  ∀ text ∈ c.leading :: c.detached, ∀ line ∈ Text.splitAt '\n' text.display.toList,
    Swift.StaysInComment line
deriving Decidable

/-- Comments without carriage returns stay in the comments that they are put into. -/
theorem Comments.stayInComment_of_not_mem {c : Comments}
    (h : ∀ text ∈ c.leading :: c.detached, '\r' ∉ text.display.toList) : c.StayInComment := by
  intro text htext line hline
  refine Swift.staysInComment_of_not_mem fun d hd => ?_
  rw [Swift.isLineBreak, Bool.or_eq_false_iff, beq_eq_false_iff_ne, beq_eq_false_iff_ne]
  have hsublist := Text.intercalate_sublist '\n' (List.cons_ne_nil line [])
    (List.singleton_sublist.2 hline)
  rw [List.intercalate_singleton, Text.intercalate_splitAt] at hsublist
  exact ⟨ne_of_mem_of_not_mem hd (Text.not_mem_of_mem_splitAt hline),
    ne_of_mem_of_not_mem (hsublist.subset hd) (h text htext)⟩

/-- The lines of comments are comments in the source text exactly if they stay in them. -/
theorem Comments.isComments_lines (c : Comments) :
    (∀ line ∈ c.lines "///" "//", Swift.IsComments line) ↔ c.StayInComment := by
  have hblock (d : Json) :
      (∀ line ∈ markedBlock "//" d.display ++ [[]], Swift.IsComments line) ↔
        ∀ line ∈ Text.splitAt '\n' d.display.toList, Swift.StaysInComment line := by
    rw [List.forall_mem_append, List.forall_mem_singleton, and_iff_left Swift.isComments_nil]
    exact isComments_markedBlock (by decide) (by decide) d.display
  rw [lines, List.forall_mem_append, isComments_markedBlock (by decide) (by decide), StayInComment,
    List.forall_mem_cons, and_comm, List.forall_mem_flatMap, List.forall_mem_map]
  exact and_congr_right fun _ => forall₂_congr fun d _ => hblock d

namespace FilePlan

variable {plan : FilePlan}

/-- The comments at the top of a typed file have a text, and it is made of comments exactly if the
comments stay in those that they are put into. -/
theorem Typed.commentText_eq (h : plan.Typed) :
    ∃ text, plan.commentText = .ok text ∧
      (Swift.IsComments text.toList ↔ ∀ c ∈ plan.topComments, c.StayInComment) := by
  unfold commentText
  cases hc : plan.topComments with
  | none => exact ⟨"", rfl, iff_of_true Swift.isComments_nil nofun⟩
  | some c =>
    have hmarker : IsMarker "///" := ⟨by decide, by decide⟩
    have hdetached : IsMarker "//" := ⟨by decide, by decide⟩
    obtain ⟨text, htext, hlines⟩ := (h.typed_topComments hc).isLines_sourceText hmarker hdetached
    refine ⟨text, htext, ?_⟩
    rw [hlines.toList_eq, Swift.isComments_flatMap, c.isComments_lines]
    simp

/-- The header of a typed file is printed, and is made of comments exactly if the name of the file
and the comments stay in those that they are put into. -/
theorem Typed.yields_header (h : plan.Typed) :
    ∃ q, plan.header.Yields filePrinter q ∧
      (Swift.IsComments plan.headerText.toList ↔
        Swift.StaysInComment plan.file.name.toList ∧
          ∀ c ∈ plan.topComments, c.StayInComment) := by
  obtain ⟨text, htext, hcomments⟩ := h.commentText_eq
  let r := filePrinter.printLines [plan.bannerText ++ "\n"]
  have hbanner : r.content = plan.bannerText ++ "\n" ++ "\n" := by
    have hcontent : r.content = filePrinter.content ++ (plan.bannerText ++ "\n") ++ "\n" :=
      Printer.content_printLines rfl _
    rw [hcontent, show filePrinter.content = "" from rfl, String.empty_append]
  obtain ⟨q, printed, hq, hcontent, hprinted⟩ :=
    yields_printComment (Printer.level_printLines filePrinter _) text
  have hyields : plan.header.Yields filePrinter q := yields_header_iff.2 ⟨text, htext, hq⟩
  have hchars : plan.headerText.toList =
      plan.bannerText.toList ++ '\n' :: ([] ++ '\n' :: printed.toList) := by
    rw [← content_of_header hyields, hcontent, hbanner]
    simp
  refine ⟨q, hyields, ?_⟩
  rw [hchars, Swift.isComments_append_lineFeed, Swift.isComments_append_lineFeed,
    and_iff_right Swift.isComments_nil, hprinted, hcomments, isComments_bannerText]

end FilePlan

/-- Of a typed file the banner and the comments carried over are printed in front of everything
else. They are blank lines and line comments exactly if the name of the file and each line of the
comments stay in the line comment that they are put into, as they do if the name has no line break
and the comments have no carriage return. -/
theorem Schema.isComments_header {settings : Settings} (hs : settings.Typed) {file : Schema}
    (hf : file.Typed) :
    ∃ plan q, FilePlan.make settings file = .ok plan ∧ plan.header.Yields filePrinter q ∧
      q.content = plan.headerText ∧
      (Swift.IsComments plan.headerText.toList ↔
        Swift.StaysInComment file.name.toList ∧ ∀ c ∈ plan.topComments, c.StayInComment) ∧
      ((∀ c ∈ file.name.toList, Swift.isLineBreak c = false) →
        (∀ c ∈ plan.topComments, ∀ text ∈ c.leading :: c.detached, '\r' ∉ text.display.toList) →
          Swift.IsComments plan.headerText.toList) ∧
      ∀ name output content, file.generate settings = .ok (.generated name output content) →
        ∃ rest, content = plan.headerText ++ rest := by
  obtain ⟨plan, hplan, htyped, -, hfile, -⟩ := plan_ok hs hf
  obtain ⟨q, hq, hheader⟩ := htyped.yields_header
  rw [hfile] at hheader
  refine ⟨plan, q, hplan, hq, FilePlan.content_of_header hq, hheader, fun hname hcomments => ?_,
    fun name output content hgenerate => ?_⟩
  · exact hheader.2 ⟨Swift.staysInComment_of_not_mem hname, fun c hc =>
      Comments.stayInComment_of_not_mem (hcomments c hc)⟩
  · obtain ⟨plan', printer, hplan', hyields, rfl⟩ := yields_of_generate hgenerate
    obtain rfl := Except.ok.inj (hplan.symm.trans hplan')
    exact FilePlan.content_of_output_header hyields

/-- A line feed in the name of a file ends the comment that the name is put into. -/
theorem Schema.isComments_header_lineFeed :
    Settings.default.Typed ∧ (blank "a\nb.proto").Typed ∧
      ∃ plan, FilePlan.make Settings.default (blank "a\nb.proto") = .ok plan ∧
        ¬ Swift.IsComments plan.headerText.toList := by
  have hs := Settings.typed_default
  have hf := typed_blank "a\nb.proto"
  obtain ⟨plan, -, hplan, -, -, hheader, -, -⟩ := isComments_header hs hf
  refine ⟨hs, hf, plan, hplan, ?_⟩
  rw [hheader]
  exact fun h => absurd h.1 (by decide)

end SchemaToSwift
