import SchemaToSwift.Proofs.Emit.Printed
import SchemaToSwift.Proofs.Printer.Shift
import SchemaToSwift.Proofs.Text.Sealed

/-!
# What an emission writes

Which texts an emission prints at which levels, and whether it stops, does not depend on the printer
(`Emission.Writes`). Emissions are told apart by the pieces they write. A settled one is printed at
the outermost level as it is on a printer of its own, so that a list of them gives the texts of its
parts one after the other (`Emission.content_all`). A `Closing` one that gets to its end prints a
line last that is not blank. A `Block` is a closing one that begins with a blank line; further in it
is printed as its text with a margin (`Emission.Block.content_eq_shift`).
-/

namespace SchemaToSwift

open Printer (Piece raise scanAll Uncut Opening)

namespace Printer

/-- Pieces whose text does not depend on whether a line starts before them. -/
def Settled (xs : List Piece) : Prop := ∀ unit b, scanAll unit b xs = scanAll unit true xs

/-- Pieces end with a line that is not blank. -/
def EndsLine (xs : List Piece) : Prop :=
  ∃ before text, xs = before ++ [⟨0, text⟩, ⟨0, "\n"⟩] ∧ Text.Sealed text

variable {xs ys : List Piece}

/-- At the outermost level there are no margins. -/
theorem settled_texts (texts : List String) : Settled (texts.map (.mk 0)) := by
  have hchars (unit : String) (b : Bool) :
      scanAll unit b (texts.map (.mk 0)) = chars (texts.map (.mk 0)) := by
    induction texts generalizing b with
    | nil => rfl
    | cons text rest ih =>
      have hmargin : (indentation unit 0).toList = [] := rfl
      rw [List.map_cons, scanAll, hmargin, scan_nil_margin, ih, chars_cons]
  exact fun unit b => (hchars unit b).trans (hchars unit true).symm

/-- Settled pieces one after the other are settled. -/
theorem additive_settled : Additive Settled where
  nil := settled_texts []
  append hx hy unit b := by
    rw [scanAll_append, scanAll_append, hx unit b, hy unit (startsAfter b _),
      hy unit (startsAfter true _)]

/-- Lines are settled, for they have no margin at the level of the printer. -/
theorem ofLines_settled : OfLines Settled where
  toAdditive := additive_settled
  lines _ := settled_texts _
  text s _ := settled_texts [s]

/-- No piece of two lists ends with a carriage return if none of either does. -/
theorem additive_uncut : Additive Uncut := ⟨nofun, Uncut.append⟩

/-- Pieces that begin with a blank line are settled. -/
theorem Opening.settled (h : Opening xs) : Settled xs := by
  intro unit b
  obtain rfl | ⟨rest, rfl⟩ := h
  · rfl
  · rw [scanAll_blankLine, scanAll_blankLine]

/-- How pieces end does not depend on those before them. -/
theorem EndsLine.append (h : EndsLine ys) (xs : List Piece) : EndsLine (xs ++ ys) := by
  obtain ⟨before, text, rfl, hend⟩ := h
  exact ⟨xs ++ before, text, (List.append_assoc ..).symm, hend⟩

/-- A blank line and lines that do not end with a carriage return are not cut. -/
theorem uncut_lineTexts {texts : List String}
    (h : ∀ text ∈ texts, text.toList.getLast? ≠ some '\r') :
    Uncut ((lineTexts texts).map (.mk 0)) := by
  have hpair (text : String) (h : text.toList.getLast? ≠ some '\r') :
      Uncut [⟨0, text⟩, ⟨0, "\n"⟩] := by
    simpa [Uncut] using h
  cases texts with
  | nil => exact hpair "" (by simp)
  | cons text rest =>
    have hlines : (lineTexts (text :: rest)).map (.mk 0) =
        (text :: rest).flatMap fun text => [(⟨0, text⟩ : Piece), ⟨0, "\n"⟩] :=
      List.map_flatMap ..
    rw [hlines]
    intro x hx
    obtain ⟨line, hline, hx⟩ := List.mem_flatMap.1 hx
    exact hpair line (h line hline) x hx

end Printer

namespace Emission

/-- The text of an emission on a printer of its own. -/
def freshText (unit : String) (a : Emission) : String := (a (.new unit)).1.content

/-- An emission writes pieces, counted from the level of the printer, and has a result. -/
def Writes (a : Emission) (xs : List Piece) (result : Except (Failure GenerationError) Unit) :
    Prop := ∀ p, a p = (p.write (raise p.level xs), result)

/-- The pieces that an emission writes have a property. -/
def Writing (P : List Piece → Prop) (a : Emission) : Prop :=
  ∃ xs result, a.Writes xs result ∧ P xs

/-- An emission of which no text ends with a carriage return, and which prints a line last if it
gets to the end. -/
def Closing (a : Emission) : Prop :=
  ∃ xs result, a.Writes xs result ∧ Uncut xs ∧ (result = .ok () → Printer.EndsLine xs)

/-- A closing emission that begins with a blank line, if it prints anything. -/
def Block (a : Emission) : Prop :=
  ∃ xs result, a.Writes xs result ∧ Uncut xs ∧ (result = .ok () → Printer.EndsLine xs) ∧
    Opening xs

section
variable {a b : Emission} {xs ys : List Piece} {result : Except (Failure GenerationError) Unit}

/-! ## Pieces of emissions -/

/-- Nothing writes no pieces. -/
theorem writes_nothing : nothing.Writes [] (.ok ()) := fun _ => rfl

/-- An emission that stops at once writes no pieces either. -/
theorem writes_stop (e : Failure GenerationError) : (stop e).Writes [] (.error e) := fun _ => rfl

/-- A text is a piece at the level of the printer. -/
theorem writes_text (s : String) : (text s).Writes [⟨0, s⟩] (.ok ()) := by
  intro p
  rw [text, Printer.printTexts_eq_write]
  rfl

/-- Lines are a piece each, and one for the line feed after each. -/
theorem writes_lines (texts : List String) :
    (lines texts).Writes ((Printer.lineTexts texts).map (.mk 0)) (.ok ()) := by
  intro p
  rw [lines, Printer.printLines_eq_printTexts, Printer.printTexts_eq_write, raise, List.map_map]
  rfl

/-- An emission after one that got to the end writes its pieces after those of the first. -/
theorem Writes.andThen (ha : a.Writes xs (.ok ())) (hb : b.Writes ys result) :
    (a.andThen b).Writes (xs ++ ys) result := by
  intro p
  rw [Emission.andThen, ha p]
  dsimp only
  rw [hb, Printer.level_write, Printer.raise_append, Printer.write_append]

/-- After one that failed it writes nothing. -/
theorem Writes.andThen_stop {e : Failure GenerationError} (ha : a.Writes xs (.error e))
    (b : Emission) : (a.andThen b).Writes xs (.error e) := by
  intro p
  rw [Emission.andThen, ha p]

/-- In a block the pieces are one level further in. -/
theorem Writes.inside (ha : a.Writes xs result) : a.inside.Writes (raise 1 xs) result := by
  intro p
  have hindent : p.indent = p.atLevel (p.level + 1) := rfl
  rw [Emission.inside, ha, hindent, Printer.write_atLevel, Printer.level_atLevel,
    Printer.raise_raise]
  refine Prod.ext ?_ rfl
  exact Printer.atLevel_of_level (Printer.level_write p _)

/-! ## Properties of the pieces -/

/-- So a property that pieces keep further in holds in a block. -/
theorem Writing.inside {P : List Piece → Prop} (h : a.Writing P)
    (hraise : ∀ {xs}, P xs → P (raise 1 xs)) : a.inside.Writing P := by
  obtain ⟨xs, result, hxs, hx⟩ := h
  exact ⟨raise 1 xs, result, hxs.inside, hraise hx⟩

section
variable {P : List Piece → Prop} (hP : Printer.Additive P)
include hP

/-- Nothing has every additive property, as it writes no pieces. -/
theorem writing_nothing : nothing.Writing P := ⟨[], _, writes_nothing, hP.nil⟩

theorem writing_stop (e : Failure GenerationError) : (stop e).Writing P :=
  ⟨[], _, writes_stop e, hP.nil⟩

/-- A property that pieces have together if both have it is that of two emissions. -/
theorem Writing.andThen (ha : a.Writing P) (hb : b.Writing P) : (a.andThen b).Writing P := by
  obtain ⟨xs, (_ | ⟨⟨⟩⟩), hxs, hx⟩ := ha
  · exact ⟨xs, _, hxs.andThen_stop b, hx⟩
  · obtain ⟨ys, result, hys, hy⟩ := hb
    exact ⟨xs ++ ys, result, hxs.andThen hys, hP.append hx hy⟩

/-- So it is for a list of emissions. -/
theorem writing_all {es : List Emission} (h : ∀ a ∈ es, a.Writing P) : (all es).Writing P := by
  induction es with
  | nil => exact writing_nothing hP
  | cons a rest ih =>
    obtain ⟨ha, hrest⟩ := List.forall_mem_cons.1 h
    exact ha.andThen hP (ih hrest)

/-- So it is for an emission that depends on a value, whatever the value is. -/
theorem writing_on {α : Type} {value : Except (Failure GenerationError) α} {next : α → Emission}
    (h : ∀ x, value = .ok x → (next x).Writing P) : (on value next).Writing P := by
  cases value with
  | ok x => exact h x rfl
  | error e => exact writing_stop hP e

/-- So it is if the value fails with an unexpected fault. -/
theorem writing_onValue {α : Type} {value : Except Fault α} {next : α → Emission}
    (h : ∀ x, value = .ok x → (next x).Writing P) : (onValue value next).Writing P := by
  cases value with
  | ok x => exact h x rfl
  | error fault => exact writing_stop hP _

end

section
variable {P : List Piece → Prop} (hP : Printer.OfLines P)
include hP

/-- Lines have every property of lines. -/
theorem writing_lines (texts : List String) : (lines texts).Writing P :=
  ⟨_, _, writes_lines texts, hP.lines texts⟩

/-- So has a text that ends with a line feed. -/
theorem writing_text {s : String} (h : s.toList.getLast? = some '\n') : (text s).Writing P :=
  ⟨_, _, writes_text s, hP.text s h⟩

/-- A text after a blank line, on the way to which emission may stop, is printed by lines. -/
theorem writing_block {α : Type} {value : Except Fault α} {block : α → String} :
    (all [.lines [], .onValue value fun x => .lines [block x]]).Writing P := by
  refine writing_all hP.toAdditive ?_
  simp only [List.forall_mem_cons]
  exact ⟨writing_lines hP _, writing_onValue hP.toAdditive fun _ _ => writing_lines hP _, nofun⟩

end

/-! ## Settled emissions -/

/-- Lines are settled. -/
theorem settled_lines (texts : List String) : (lines texts).Writing Printer.Settled :=
  writing_lines Printer.ofLines_settled texts

/-- So is a block, which begins with a blank line. -/
theorem Block.settled (h : a.Block) : a.Writing Printer.Settled := by
  obtain ⟨xs, result, hxs, -, -, hopening⟩ := h
  exact ⟨xs, result, hxs, hopening.settled⟩

/-- The text of an emission on a printer of its own is that of its pieces with their margins. -/
theorem Writes.freshText_eq (h : a.Writes xs result) (unit : String) :
    (freshText unit a).toList = scanAll unit true xs := by
  have hcontent := Printer.content_write (.new unit) xs
  have hlevel : (Printer.new unit).level = 0 := rfl
  rw [freshText, h, hlevel, Printer.raise_zero, hcontent]
  rfl

/-- At the outermost level a settled emission adds the text that it has on a printer of its own. -/
theorem content_eq (h : a.Writing Printer.Settled) {p : Printer} (hp : p.level = 0) :
    (a p).1.content = p.content ++ freshText p.unit a := by
  obtain ⟨xs, result, hxs, hsettled⟩ := h
  refine String.toList_injective ?_
  rw [hxs p, hp, Printer.raise_zero, Printer.content_write, hsettled, String.toList_append,
    hxs.freshText_eq]

/-- Whether an emission fails does not depend on the printer. -/
theorem Writing.result_eq {P : List Piece → Prop} (h : a.Writing P) (p q : Printer) :
    (a p).2 = (a q).2 := by
  obtain ⟨xs, result, hxs, -⟩ := h
  rw [hxs p, hxs q]

/-- An emission puts the level back. -/
theorem Writing.level_eq {P : List Piece → Prop} (h : a.Writing P) (p : Printer) :
    (a p).1.level = p.level := by
  obtain ⟨xs, result, hxs, -⟩ := h
  rw [hxs p, Printer.level_write]

/-- No emission changes the unit of the indentation. -/
theorem Writing.unit_eq {P : List Piece → Prop} (h : a.Writing P) (p : Printer) :
    (a p).1.unit = p.unit := by
  obtain ⟨xs, result, hxs, -⟩ := h
  rw [hxs p, Printer.unit_write]

/-- At the outermost level settled emissions add the texts that they have on printers of their own,
one after the other, and none of them stops. -/
theorem content_all {es : List Emission} (h : ∀ a ∈ es, a.Writing Printer.Settled) :
    ∀ {p q : Printer}, p.level = 0 → (all es).Yields p q →
      q.content = p.content ++ String.join (es.map (freshText p.unit)) ∧
        ∀ a ∈ es, (a (.new p.unit)).2 = .ok () := by
  induction es with
  | nil =>
    intro p q _ hq
    obtain rfl := yields_all_nil.1 hq
    exact ⟨by simp, nofun⟩
  | cons a rest ih =>
    intro p q hp hq
    obtain ⟨ha, hrest⟩ := List.forall_mem_cons.1 h
    obtain ⟨r, hr, hq⟩ := yields_all_cons.1 hq
    have hfirst : (a p).1 = r := congrArg Prod.fst hr
    have hlevel := ha.level_eq p
    have hunit := ha.unit_eq p
    have hcontent := content_eq ha hp
    rw [hfirst] at hlevel hunit hcontent
    obtain ⟨hq, hresults⟩ := ih hrest (hlevel.trans hp) hq
    rw [hunit] at hq hresults
    have hresult : (a (.new p.unit)).2 = .ok () :=
      (ha.result_eq _ p).trans (congrArg Prod.snd hr)
    refine ⟨?_, List.forall_mem_cons.2 ⟨hresult, hresults⟩⟩
    rw [hq, hcontent, List.map_cons, String.join_cons, String.append_assoc]

/-! ## Closing emissions -/

/-- No line that is sealed ends with a carriage return. -/
theorem uncut_lines {texts : List String} (h : ∀ text ∈ texts, Text.Sealed text) :
    (lines texts).Writing Uncut :=
  ⟨_, _, writes_lines texts, Printer.uncut_lineTexts fun text htext => (h text htext).getLast?_ne⟩

/-- No text of a closing emission does. -/
theorem Closing.uncut (h : a.Closing) : a.Writing Uncut := by
  obtain ⟨xs, result, hxs, hx, -⟩ := h
  exact ⟨xs, result, hxs, hx⟩

/-- An emission that stops at once is closing, for it does not get to the end. -/
theorem closing_stop (e : Failure GenerationError) : (stop e).Closing :=
  ⟨[], _, writes_stop e, nofun, nofun⟩

/-- Lines of which the last one is sealed are closing. -/
theorem closing_lines {before : List String} {s : String}
    (hbefore : ∀ text ∈ before, text.toList.getLast? ≠ some '\r') (h : Text.Sealed s) :
    (lines (before ++ [s])).Closing := by
  refine ⟨_, _, writes_lines _, Printer.uncut_lineTexts ?_, fun _ => ?_⟩
  · exact List.forall_mem_append.2 ⟨hbefore, List.forall_mem_singleton.2 h.getLast?_ne⟩
  · refine ⟨(before.flatMap fun text => [text, "\n"]).map (.mk 0), s, ?_, h⟩
    rw [Printer.lineTexts, if_neg (by simp), List.flatMap_append, List.map_append]
    rfl

/-- A sealed line closes. -/
theorem closing_line {s : String} (h : Text.Sealed s) : (lines [s]).Closing :=
  closing_lines (List.forall_mem_nil _) h

/-- A closing emission closes what stands before it too. -/
theorem Closing.after (ha : a.Writing Uncut) (hb : b.Closing) : (a.andThen b).Closing := by
  obtain ⟨xs, (_ | ⟨⟨⟩⟩), hxs, hx⟩ := ha
  · exact ⟨xs, _, hxs.andThen_stop b, hx, nofun⟩
  · obtain ⟨ys, result, hys, hy, hend⟩ := hb
    exact ⟨xs ++ ys, result, hxs.andThen hys, hx.append hy, fun hok => (hend hok).append xs⟩

/-- So it does as the only one of a list. -/
theorem Closing.all_singleton (h : a.Closing) : (all [a]).Closing := by
  obtain ⟨xs, (_ | ⟨⟨⟩⟩), hxs, hx, hend⟩ := h
  · exact ⟨xs, _, hxs.andThen_stop nothing, hx, nofun⟩
  · exact ⟨xs ++ [], _, hxs.andThen writes_nothing, hx.append nofun,
      fun hok => by simpa using hend hok⟩

/-- An emission that depends on a value closes if it does for each value. -/
theorem closing_on {α : Type} {value : Except (Failure GenerationError) α} {next : α → Emission}
    (h : ∀ x, value = .ok x → (next x).Closing) : (on value next).Closing := by
  cases value with
  | ok x => exact h x rfl
  | error e => exact closing_stop e

/-- So it does if the value fails with an unexpected fault. -/
theorem closing_onValue {α : Type} {value : Except Fault α} {next : α → Emission}
    (h : ∀ x, value = .ok x → (next x).Closing) : (onValue value next).Closing := by
  cases value with
  | ok x => exact h x rfl
  | error fault => exact closing_stop _

/-- The text of a closing emission ends with one line feed and not with two. -/
theorem Closing.endsOnce (h : a.Closing) {unit : String} (hok : (a (.new unit)).2 = .ok ()) :
    Text.EndsOnce (freshText unit a) := by
  obtain ⟨xs, result, hxs, -, hend⟩ := h
  rw [hxs] at hok
  obtain ⟨before, text, rfl, hsealed⟩ := hend hok
  obtain ⟨c, hc, hfeed, -⟩ := hsealed
  obtain ⟨init, hinit⟩ := List.getLast?_eq_some_iff.1 hc
  have hmargin : (Printer.indentation unit 0).toList = [] := rfl
  have hnewline : "\n".toList = ['\n'] := rfl
  refine ⟨scanAll unit true before ++ init, c, ?_, hfeed⟩
  rw [hxs.freshText_eq, Printer.scanAll_append, scanAll, scanAll, scanAll, hmargin,
    Printer.scan_nil_margin, Printer.scan_nil_margin, hinit, hnewline]
  simp

/-! ## Blocks -/

theorem block_stop (e : Failure GenerationError) : (stop e).Block :=
  ⟨[], _, writes_stop e, nofun, nofun, .inl rfl⟩

/-- A closing emission after a blank line is a block. -/
theorem Closing.block (h : a.Closing) : ((lines []).andThen a).Block := by
  obtain ⟨xs, result, hxs, hx, hend⟩ := h
  have hblank := Printer.uncut_lineTexts (List.forall_mem_nil _)
  exact ⟨_, result, (writes_lines []).andThen hxs, hblank.append hx, fun hok => (hend hok).append _,
    .inr ⟨xs, rfl⟩⟩

/-- A block closes. -/
theorem Block.closing (h : a.Block) : a.Closing := by
  obtain ⟨xs, result, hxs, hx, hend, -⟩ := h
  exact ⟨xs, result, hxs, hx, hend⟩

/-- A block is printed as its text with the margin of the printer, wherever it stands. -/
theorem Block.content_eq_shift (h : a.Block) {p : Printer} (hunit : '\n' ∉ p.unit.toList) :
    (a p).1.content.toList =
      p.content.toList ++ Printer.shift p.margin (freshText p.unit a).toList := by
  obtain ⟨xs, result, hxs, hx, -, hopening⟩ := h
  rw [hxs p, Printer.content_write, Printer.scanAll_raise hunit _ _ hx,
    hopening.scan_scanAll, hxs.freshText_eq, Printer.scan_eq_shift]
  rfl

/-- Whether a block fails does not depend on the printer. -/
theorem Block.result_eq (h : a.Block) (p q : Printer) : (a p).2 = (a q).2 := h.settled.result_eq p q

end

end Emission

end SchemaToSwift
