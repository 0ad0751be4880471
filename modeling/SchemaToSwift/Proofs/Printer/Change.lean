import SchemaToSwift.Proofs.Printer.Script
import SchemaToSwift.Proofs.Printer.Shift

/-!
# Changes of a printer

A scripted change of a printer writes pieces and goes to a level, and its own level is all that it
reads of the printer. `Alike` printers therefore get the same text (`Scripted.appends`). A change
that writes whole lines leaves the start of a line before what comes next (`Scripted.atLineStart`),
at whatever point it was broken off.
-/

namespace SchemaToSwift.Printer

/-- Nothing, or texts that end with a line feed. -/
def WholeLines (xs : List Piece) : Prop := StartsLine (chars xs)

/-- A change writes pieces that have a property and goes to a level, and which ones depends on the
level of the printer alone. -/
def Scripted (P : List Piece → Prop) (f : Printer → Printer) : Prop :=
  ∀ n, ∃ xs m, P xs ∧ ∀ p : Printer, p.level = n → f p = (p.write xs).atLevel m

/-- The next text has the same margins in both printers. -/
structure Alike (p q : Printer) : Prop where
  unit : p.unit = q.unit
  level : p.level = q.level
  atLineStart : p.atLineStart = q.atLineStart

/-- A printer has its own margins. -/
theorem Alike.refl (p : Printer) : Alike p p := ⟨rfl, rfl, rfl⟩

variable {p q : Printer} {xs ys : List Piece}

/-! ## Whole lines -/

/-- Whole lines are a text after which a line starts, if one started before it. -/
theorem wholeLines_iff : WholeLines xs ↔ startsAfter true (chars xs) = true :=
  startsAfter_eq_true.symm

/-- Whole lines one after the other are whole lines. -/
theorem additive_wholeLines : Additive WholeLines where
  nil := .inl rfl
  append {xs ys} hx hy := by
    rw [wholeLines_iff] at hx hy ⊢
    have happend : chars (xs ++ ys) = chars xs ++ chars ys := List.flatMap_append
    rw [happend, startsAfter_append, hx, hy]

/-- What pieces have that are made of each element, all of them together have. -/
theorem Additive.flatMap {P : List Piece → Prop} (hP : Additive P) {α : Type} {f : α → List Piece}
    (h : ∀ x, P (f x)) (l : List α) : P (l.flatMap f) := by
  induction l with
  | nil => exact hP.nil
  | cons x rest ih => exact hP.append (h x) ih

theorem ofLines_wholeLines : OfLines WholeLines where
  toAdditive := additive_wholeLines
  lines texts := by
    rw [lineTexts, List.map_flatMap]
    exact additive_wholeLines.flatMap (fun text => .inr (by simp [chars])) _
  text s h := .inr (by simpa [chars] using h)

/-- Further in, the pieces have the same text. -/
theorem chars_raise (n : Nat) (xs : List Piece) : chars (raise n xs) = chars xs :=
  List.flatMap_map ..

/-- So whole lines are whole lines further in. -/
theorem WholeLines.raise (h : WholeLines xs) (n : Nat) : WholeLines (Printer.raise n xs) := by
  rwa [WholeLines, chars_raise]

/-- A text before whole lines that starts a line is one that starts a line with them. -/
theorem WholeLines.startsLine_scanAll (h : WholeLines xs) {cs : List Char} (hcs : StartsLine cs)
    (unit : String) (b : Bool) : StartsLine (cs ++ scanAll unit b xs) := by
  rw [← startsAfter_eq_true] at hcs ⊢
  rw [startsAfter_append, hcs, startsAfter_scanAll]
  exact wholeLines_iff.1 h

/-- After whole lines a line starts, if one started before them. -/
theorem WholeLines.atLineStart_write (h : WholeLines xs) (hp : p.atLineStart = true) :
    (p.write xs).atLineStart = true := by
  rw [Printer.atLineStart_write, hp]
  exact wholeLines_iff.1 h

/-! ## Scripted changes -/

theorem additive_true : Additive fun _ => True := ⟨trivial, fun _ _ => trivial⟩

section
variable {P : List Piece → Prop} {f g : Printer → Printer}

/-- Changes one after the other are a change by what both write. -/
theorem Scripted.comp (hf : Scripted P f) (hg : Scripted P g) (hP : Additive P) :
    Scripted P fun p => g (f p) := by
  intro n
  obtain ⟨xs, m, hx, hf⟩ := hf n
  obtain ⟨ys, k, hy, hg⟩ := hg m
  refine ⟨xs ++ ys, k, hP.append hx hy, fun p hp => ?_⟩
  dsimp only
  rw [hf p hp, hg _ (level_atLevel _ m), write_atLevel, atLevel_atLevel, write_append]

/-- What a change writes need not be known. -/
theorem Scripted.weaken (h : Scripted P f) : Scripted (fun _ => True) f := by
  intro n
  obtain ⟨xs, m, -, hf⟩ := h n
  exact ⟨xs, m, trivial, hf⟩

/-- A run of scripted steps is scripted. -/
theorem scripted_foldl {α : Type} {step : Printer → α → Printer}
    (h : ∀ a, Scripted P fun p => step p a) (hP : Additive P) (steps : List α) :
    Scripted P fun p => steps.foldl step p := by
  induction steps with
  | nil => exact fun n => ⟨[], n, hP.nil, fun p hp => (atLevel_of_level hp).symm⟩
  | cons a rest ih => exact (h a).comp ih hP

/-- Any run of steps is a change by a script. -/
theorem scripted_runEach (steps : List Step) :
    Scripted (fun _ => True) fun p => p.runEach steps := by
  refine scripted_foldl (fun s n => ?_) additive_true steps
  refine ⟨(s.script n).pieces, (s.script n).level, trivial, fun p hp => ?_⟩
  dsimp only
  rw [run_eq, hp, follow]

/-- A change that writes whole lines ends where a line starts. -/
theorem Scripted.atLineStart (h : Scripted WholeLines f) (hp : p.atLineStart = true) :
    (f p).atLineStart = true := by
  obtain ⟨xs, m, hx, hf⟩ := h p.level
  rw [hf p rfl]
  exact hx.atLineStart_write hp

/-- A scripted change appends the same text to printers that are alike. -/
theorem Scripted.appends (h : Scripted P f) (hpq : Alike p q) :
    ∃ added, (f p).content = p.content ++ added ∧ (f q).content = q.content ++ added := by
  obtain ⟨xs, m, -, hf⟩ := h p.level
  have hcontent (r : Printer) (hr : r.level = p.level) : (f r).content =
      r.content ++ String.ofList (scanAll r.unit r.atLineStart xs) := by
    refine String.toList_injective ?_
    rw [hf r hr, String.toList_append, String.toList_ofList]
    exact content_write r xs
  refine ⟨_, hcontent p rfl, ?_⟩
  rw [hcontent q hpq.level.symm, hpq.unit, hpq.atLineStart]

end

end SchemaToSwift.Printer
