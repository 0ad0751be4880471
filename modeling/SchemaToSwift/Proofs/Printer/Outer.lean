import SchemaToSwift.Proofs.Printer.Change
import SchemaToSwift.Proofs.Text.Split

/-!
# Lines outside of blocks

What is printed in a block has a margin, so a line that begins with another character comes from a
text that is printed outside of all blocks (`outerTexts`). Such a line stands in the content as
often as it stands in these texts (`count_content`). The induction goes along the steps; each of
them leaves the start of a line (`WholeLines`), so that the lines of the content are those of the
steps, one after the other.
-/

namespace SchemaToSwift

namespace Text

/-! ## Counting lines -/

/-- How often a line stands in a text. -/
def countLine (line cs : List Char) : Nat := (splitAt '\n' cs).count line

/-- A text is among texts as often as its characters are. -/
theorem count_map_ofList (line : String) (xs : List (List Char)) :
    (xs.map String.ofList).count line = xs.count line.toList := by
  rw [List.count, List.count, List.countP_map]
  refine List.countP_congr fun cs _ => ?_
  rw [Function.comp_apply, beq_iff_eq, beq_iff_eq, ← String.toList_inj, String.toList_ofList]

section
variable {line : List Char}

/-- No text has no other line than the empty one. -/
theorem countLine_nil (hline : line ≠ []) : countLine line [] = 0 :=
  List.count_eq_zero_of_not_mem (by simpa [splitAt] using hline)

/-- The lines before and after the end of a line. -/
theorem countLine_append_cons (xs ys : List Char) :
    countLine line (xs ++ '\n' :: ys) = countLine line xs + countLine line ys := by
  rw [countLine, splitAt_append_cons, List.count_append]
  rfl

/-- The end of the last line adds none. -/
theorem countLine_concat (hline : line ≠ []) (xs : List Char) :
    countLine line (xs ++ ['\n']) = countLine line xs := by
  rw [countLine_append_cons, countLine_nil hline, Nat.add_zero]

/-- Lines after a text that leaves the start of a line are lines of their own. -/
theorem countLine_append (hline : line ≠ []) {xs : List Char} (h : Printer.StartsLine xs)
    (ys : List Char) : countLine line (xs ++ ys) = countLine line xs + countLine line ys := by
  rcases h with rfl | hlast
  · rw [List.nil_append, countLine_nil hline, Nat.zero_add]
  · obtain ⟨before, rfl⟩ := List.getLast?_eq_some_iff.1 hlast
    rw [List.append_assoc, List.singleton_append, countLine_append_cons, countLine_concat hline]

end

/-- The characters that stand where a line starts. -/
def lineStarts (atLineStart : Bool) : List Char → List Char
  | [] => []
  | c :: rest => (if atLineStart then [c] else []) ++ lineStarts (c == '\n') rest

/-- Where lines start in a text depends on whether one starts before it, and on nothing else before
it. -/
theorem lineStarts_append (b : Bool) (xs ys : List Char) :
    lineStarts b (xs ++ ys) = lineStarts b xs ++ lineStarts (Printer.startsAfter b xs) ys := by
  induction xs generalizing b with
  | nil => rfl
  | cons c rest ih =>
    rw [List.cons_append, lineStarts, lineStarts, ih, List.append_assoc]
    rfl

/-- No line starts within a text without line feeds. -/
theorem lineStarts_of_not_mem {xs : List Char} (h : '\n' ∉ xs) : lineStarts false xs = [] := by
  induction xs with
  | nil => rfl
  | cons c rest ih =>
    rw [List.mem_cons, not_or] at h
    rw [lineStarts, beq_eq_false_iff_ne.2 (Ne.symm h.1), ih h.2]
    rfl

/-- A line that is not empty begins where a line starts, and where one starts after the first one if
it is not the first one. -/
theorem head_mem_lineStarts {c : Char} {line cs : List Char} :
    (c :: line ∈ splitAt '\n' cs → c ∈ lineStarts true cs) ∧
      (c :: line ∈ (splitAt '\n' cs).tail → c ∈ lineStarts false cs) := by
  induction cs with
  | nil => simp [splitAt]
  | cons d rest ih =>
    rw [splitAt]
    by_cases hd : d = '\n'
    · subst hd
      rw [if_pos rfl]
      refine ⟨fun h => ?_, fun h => ih.1 h⟩
      exact List.mem_append_right _ (ih.1 ((List.mem_cons.1 h).resolve_left (List.cons_ne_nil _ _)))
    · have hstarts (b : Bool) :
          lineStarts b (d :: rest) = (if b then [d] else []) ++ lineStarts false rest := by
        rw [lineStarts, beq_eq_false_iff_ne.2 hd]
      rw [if_neg hd, hstarts, hstarts]
      cases hsplit : splitAt '\n' rest with
      | nil => exact absurd hsplit (splitAt_ne_nil _ _)
      | cons part parts =>
        rw [hsplit] at ih
        refine ⟨fun h => ?_, fun h => ih.2 h⟩
        rcases List.mem_cons.1 h with heq | hparts
        · exact List.mem_append_left _ (List.mem_singleton.2 (List.cons.inj heq).1)
        · exact List.mem_append_right _ (ih.2 hparts)

/-- A line that begins with a character that no line starts with does not occur. -/
theorem countLine_eq_zero {c : Char} {line cs : List Char} (h : c ∉ lineStarts true cs) :
    countLine (c :: line) cs = 0 :=
  List.count_eq_zero_of_not_mem fun hmem => h (head_mem_lineStarts.1 hmem)

end Text

namespace Printer

open Text (countLine lineStarts)

/-! ## Lines with margins -/

/-- Where a margin is put in front of lines, a line starts with it or is blank. -/
theorem mem_lineStarts_scan {m : Char} {margin : List Char} (hmargin : '\n' ∉ m :: margin)
    {b : Bool} {cs : List Char} {c : Char} (h : c ∈ lineStarts b (scan (m :: margin) b cs)) :
    c = m ∨ c = '\n' ∨ c = '\r' := by
  induction cs generalizing b with
  | nil => cases h
  | cons d rest ih =>
    rw [scan] at h
    rw [List.mem_cons, not_or] at hmargin
    by_cases hmarked : (b && opensLine (d :: rest)) = true
    · rw [if_pos hmarked, List.cons_append, lineStarts, beq_eq_false_iff_ne.2 (Ne.symm hmargin.1),
        Text.lineStarts_append, Text.lineStarts_of_not_mem hmargin.2] at h
      obtain ⟨hb, -⟩ := Bool.and_eq_true_iff.1 hmarked
      rcases List.mem_append.1 h with hfirst | hrest
      · rw [hb, if_pos rfl] at hfirst
        exact .inl (List.mem_singleton.1 hfirst)
      · have hinside : startsAfter false margin = false := by
          rw [startsAfter_eq]
          cases hlast : margin.getLast? with
          | none => simp
          | some e =>
            have he : e ≠ '\n' := fun he =>
              hmargin.2 (he ▸ List.mem_of_getLast? hlast)
            simpa using he
        rw [List.nil_append, hinside, lineStarts] at hrest
        exact ih (by simpa using hrest)
    · rw [if_neg hmarked, List.nil_append, lineStarts] at h
      rcases List.mem_append.1 h with hfirst | hrest
      · cases b with
        | false => cases hfirst
        | true =>
          -- no margin where a line starts: the line is blank
          obtain rfl := List.mem_singleton.1 hfirst
          rw [Bool.true_and, opensLine_eq_true, not_not] at hmarked
          rcases hmarked with ⟨_, hprefix⟩ | ⟨_, hprefix⟩
          · exact .inr (.inl (List.cons.inj hprefix).1.symm)
          · exact .inr (.inr (List.cons.inj hprefix).1.symm)
      · exact ih hrest

/-- So it is in pieces that are all printed further in. -/
theorem mem_lineStarts_scanAll {unit : String} {m : Char} {margin : List Char}
    (hunit : unit.toList = m :: margin) (hmargin : '\n' ∉ m :: margin) {xs : List Piece}
    (hlevels : ∀ x ∈ xs, 0 < x.level) {b : Bool} {c : Char}
    (h : c ∈ lineStarts b (scanAll unit b xs)) : c = m ∨ c = '\n' ∨ c = '\r' := by
  induction xs generalizing b with
  | nil => cases h
  | cons x rest ih =>
    obtain ⟨hx, hrest⟩ := List.forall_mem_cons.1 hlevels
    obtain ⟨n, hn⟩ := Nat.exists_eq_succ_of_ne_zero hx.ne'
    have hindentation : (indentation unit x.level).toList =
        m :: (margin ++ (indentation unit n).toList) := by
      have hsum : x.level = 1 + n := by omega
      have hone : indentation unit 1 = unit := by simp [indentation]
      rw [hsum, indentation_add, hone, String.toList_append, hunit, List.cons_append]
    have hall := newline_not_mem_indentation (hunit ▸ hmargin) x.level
    rw [hindentation] at hall
    rw [scanAll, Text.lineStarts_append, startsAfter_scan, hindentation] at h
    rcases List.mem_append.1 h with hfirst | hothers
    · exact mem_lineStarts_scan hall hfirst
    · exact ih hrest hothers

/-- Pieces at the outermost level have no margin. -/
theorem scanAll_outermost {unit : String} {xs : List Piece} (h : ∀ x ∈ xs, x.level = 0) (b : Bool) :
    scanAll unit b xs = chars xs := by
  induction xs generalizing b with
  | nil => rfl
  | cons x rest ih =>
    obtain ⟨hx, hrest⟩ := List.forall_mem_cons.1 h
    have hnone : (indentation unit 0).toList = [] := by simp [indentation]
    rw [scanAll, ih hrest, hx, hnone, scan_nil_margin, chars_cons]

/-! ## Steps -/

mutual

/-- The step prints whole lines and stays at its level. -/
def Step.Whole : Step → Prop
  | .lines _ => True
  | .texts ts => ∀ t ∈ ts, t.toList.getLast? = some '\n'
  | .block steps => AllWhole steps
  | .indentedLines _ | .indentedTexts _ | .indent | .outdent => False

/-- All steps print whole lines and stay at their level. -/
def AllWhole : List Step → Prop
  | [] => True
  | s :: rest => s.Whole ∧ AllWhole rest

end

/-- Steps print whole lines if those before and those after do. -/
theorem allWhole_append {xs ys : List Step} :
    AllWhole (xs ++ ys) ↔ AllWhole xs ∧ AllWhole ys := by
  induction xs with
  | nil => exact (and_iff_right trivial).symm
  | cons s rest ih => rw [List.cons_append, AllWhole, AllWhole, ih, and_assoc]

/-- A script that ends at the level that it begins at and writes whole lines, none of them further
out. -/
structure Script.Whole (n : Nat) (s : Script) : Prop where
  ok : s.ok = true
  level : s.level = n
  lines : WholeLines s.pieces
  inside : ∀ x ∈ s.pieces, n ≤ x.level

/-- Texts at the level of the printer that are whole lines stay at their level. -/
theorem Script.whole_texts {n : Nat} {ts : List String}
    (h : WholeLines (ts.map (.mk n))) : Script.Whole n ⟨ts.map (.mk n), n, true⟩ :=
  ⟨rfl, rfl, h, fun x hx => by
    obtain ⟨text, -, rfl⟩ := List.mem_map.1 hx
    exact le_rfl⟩

/-- Texts that each end with a line feed are whole lines. -/
theorem wholeLines_texts (n : Nat) {ts : List String}
    (h : ∀ t ∈ ts, t.toList.getLast? = some '\n') : WholeLines (ts.map (.mk n)) := by
  induction ts with
  | nil => exact .inl rfl
  | cons t rest ih =>
    obtain ⟨ht, hrest⟩ := List.forall_mem_cons.1 h
    have hone : WholeLines [⟨n, t⟩] := .inr (by simpa [chars] using ht)
    exact additive_wholeLines.append hone (ih hrest)

/-- So is what lines are printed by. -/
theorem wholeLines_lineTexts (n : Nat) (ts : List String) :
    WholeLines ((lineTexts ts).map (.mk n)) := by
  rw [lineTexts, List.map_flatMap]
  exact additive_wholeLines.flatMap (fun text => .inr (by simp [chars])) _

mutual

/-- A step of whole lines has a script of whole lines. -/
theorem Step.Whole.script : ∀ {s : Step}, s.Whole → ∀ n, (s.script n).Whole n
  | .lines ts, _, n => Script.whole_texts (wholeLines_lineTexts n ts)
  | .texts ts, h, n => by
    rw [Step.Whole] at h
    exact Script.whole_texts (wholeLines_texts n h)
  | .block steps, h, n => by
    rw [Step.Whole] at h
    have hbody := AllWhole.script h (n + 1)
    refine ⟨?_, ?_, hbody.lines, fun x hx => Nat.le_of_succ_le (hbody.inside x hx)⟩
    · simp [Step.script, hbody.ok, hbody.level]
    · simp [Step.script, hbody.level]
  | .indentedLines _, h, _ | .indentedTexts _, h, _ | .indent, h, _ | .outdent, h, _ => by
    rw [Step.Whole] at h
    exact h.elim

/-- Steps of whole lines have a script of whole lines. -/
theorem AllWhole.script : ∀ {steps : List Step}, AllWhole steps → ∀ n, (scriptAll n steps).Whole n
  | [], _, _ => ⟨rfl, rfl, .inl rfl, nofun⟩
  | s :: rest, h, n => by
    rw [AllWhole] at h
    have hfirst := Step.Whole.script h.1 n
    have hrest := AllWhole.script h.2 n
    rw [scriptAll, hfirst.ok, if_pos rfl, hfirst.level]
    exact ⟨hrest.ok, hrest.level, additive_wholeLines.append hfirst.lines hrest.lines,
      List.forall_mem_append.2 ⟨hfirst.inside, hrest.inside⟩⟩

end

/-! ## Texts outside of blocks -/

/-- The texts that a step prints outside of blocks. -/
def Step.outerTexts : Step → List String
  | .lines ts | .texts ts => ts
  | _ => []

/-- The texts that steps print outside of blocks. -/
def outerTexts (steps : List Step) : List String := steps.flatMap (·.outerTexts)

/-- The texts that steps print outside of blocks are those of each step, in order. -/
theorem outerTexts_append (xs ys : List Step) :
    outerTexts (xs ++ ys) = outerTexts xs ++ outerTexts ys := List.flatMap_append

/-- The lines of texts, as characters. -/
def linesOf (texts : List String) : List (List Char) :=
  texts.flatMap fun t => Text.splitAt '\n' t.toList

theorem linesOf_cons (t : String) (rest : List String) :
    linesOf (t :: rest) = Text.splitAt '\n' t.toList ++ linesOf rest := List.flatMap_cons

section
variable {line : List Char} (hline : line ≠ [])
include hline

/-- Texts that end with line feeds have their own lines. -/
theorem countLine_texts {ts : List String} (h : ∀ t ∈ ts, t.toList.getLast? = some '\n') :
    countLine line (ts.flatMap (·.toList)) = (linesOf ts).count line := by
  induction ts with
  | nil => exact Text.countLine_nil hline
  | cons t rest ih =>
    obtain ⟨ht, hrest⟩ := List.forall_mem_cons.1 h
    rw [List.flatMap_cons, Text.countLine_append hline (.inr ht), ih hrest, linesOf_cons,
      List.count_append]
    rfl

/-- So have texts that a line feed is put after. -/
theorem countLine_lineTexts (ts : List String) :
    countLine line ((lineTexts ts).flatMap (·.toList)) = (linesOf ts).count line := by
  have hfed (ts : List String) :
      countLine line ((ts.flatMap fun t => [t, "\n"]).flatMap (·.toList)) =
        (linesOf ts).count line := by
    induction ts with
    | nil => exact Text.countLine_nil hline
    | cons t rest ih =>
      have hchars : ((t :: rest).flatMap fun t => [t, "\n"]).flatMap (·.toList) =
          t.toList ++ '\n' :: (rest.flatMap fun t => [t, "\n"]).flatMap (·.toList) := rfl
      rw [hchars, Text.countLine_append_cons, ih, linesOf_cons, List.count_append]
      rfl
  unfold lineTexts
  split
  · next hempty =>
    rw [List.isEmpty_iff.1 hempty, hfed]
    exact Text.countLine_nil hline
  · exact hfed ts

end

section
variable {unit : String} {m c : Char} {margin line : List Char}
  (hunit : unit.toList = m :: margin) (hmargin : '\n' ∉ m :: margin)
  (hc : ¬ (c = m ∨ c = '\n' ∨ c = '\r'))
include hunit hmargin hc

/-- A line that begins with no margin stands in what a step prints as often as in its texts outside
of blocks. -/
theorem countLine_step {s : Step} (h : s.Whole) :
    countLine (c :: line) (scanAll unit true (s.script 0).pieces) =
      (linesOf s.outerTexts).count (c :: line) := by
  have houter (ts : List String) : ∀ x ∈ ts.map (Piece.mk 0), x.level = 0 := by
    intro x hx
    obtain ⟨t, -, rfl⟩ := List.mem_map.1 hx
    rfl
  have hchars (ts : List String) : chars (ts.map (Piece.mk 0)) = ts.flatMap (·.toList) :=
    List.flatMap_map ..
  cases s with
  | lines ts =>
    rw [Step.script, scanAll_outermost (houter _), hchars]
    exact countLine_lineTexts (List.cons_ne_nil c line) ts
  | texts ts =>
    rw [Step.Whole] at h
    rw [Step.script, scanAll_outermost (houter _), hchars]
    exact countLine_texts (List.cons_ne_nil c line) h
  | block steps =>
    rw [Step.Whole] at h
    exact Text.countLine_eq_zero fun hmem =>
      hc (mem_lineStarts_scanAll hunit hmargin (h.script 1).inside hmem)
  | indentedLines | indentedTexts | indent | outdent =>
    rw [Step.Whole] at h
    exact h.elim

/-- A line that begins with no margin stands in what steps print as often as in their texts outside
of blocks. -/
theorem countLine_steps {steps : List Step} (h : AllWhole steps) :
    countLine (c :: line) (scanAll unit true (scriptAll 0 steps).pieces) =
      (linesOf (outerTexts steps)).count (c :: line) := by
  induction steps with
  | nil => exact Text.countLine_nil (List.cons_ne_nil c line)
  | cons s rest ih =>
    rw [AllWhole] at h
    have hfirst := h.1.script 0
    have hstart := hfirst.lines
    rw [wholeLines_iff] at hstart
    have hstartAfter : StartsLine (scanAll unit true (s.script 0).pieces) := by
      rwa [← startsAfter_eq_true, startsAfter_scanAll]
    have happend : linesOf (outerTexts (s :: rest)) =
        linesOf s.outerTexts ++ linesOf (outerTexts rest) := List.flatMap_append
    rw [scriptAll, hfirst.ok, if_pos rfl, hfirst.level, happend, List.count_append,
      ← countLine_step hunit hmargin hc h.1, ← ih h.2, scanAll_append, hstart]
    exact Text.countLine_append (List.cons_ne_nil c line) hstartAfter _

end

/-- A line that begins with no margin stands in the content of a run as often as in the texts that
are printed outside of blocks. -/
theorem count_content {unit line : String} {steps : List Step} {q : Printer}
    (hrun : (new unit).runAll steps = (q, true)) (h : AllWhole steps) {m c : Char}
    {margin rest : List Char} (hunit : unit.toList = m :: margin) (hmargin : '\n' ∉ m :: margin)
    (hline : line.toList = c :: rest) (hc : ¬ (c = m ∨ c = '\n' ∨ c = '\r')) :
    (Text.parts '\n' q.content).count line =
      ((outerTexts steps).flatMap (Text.parts '\n')).count line := by
  rw [runAll_eq, follow] at hrun
  obtain ⟨rfl, -⟩ := Prod.mk.inj hrun
  have hcontent : (((new unit).write (scriptAll 0 steps).pieces).content).toList =
      scanAll unit true (scriptAll 0 steps).pieces := content_write (new unit) _
  have hcount : countLine (c :: rest) (scanAll unit true (scriptAll 0 steps).pieces) =
      (linesOf (outerTexts steps)).count (c :: rest) := countLine_steps hunit hmargin hc h
  have hparts : (outerTexts steps).flatMap (Text.parts '\n') =
      (linesOf (outerTexts steps)).map String.ofList := List.map_flatMap.symm
  rw [hparts, Text.count_map_ofList, hline, ← hcount, ← hcontent, Text.parts,
    Text.count_map_ofList, hline]
  rfl

end Printer

end SchemaToSwift
