import SchemaToSwift.Emit.Basic
import SchemaToSwift.Printer.Step
import SchemaToSwift.Proofs.Result

/-!
# What an emission prints

`Emission.Yields a p q` says that an emission is printed to the end and turns the printer `p` into
`q`. What a compound emission yields is read back as what its parts yield. `Printer.Printed p steps
q` says the same of printing steps that leave the indentation as it was, and it composes along lists
of steps and into blocks.
-/

namespace SchemaToSwift

/-! ## Steps -/

namespace Printer

@[simp] theorem level_addLine (p : Printer) (line : List Char) : (p.addLine line).level = p.level :=
  rfl

/-- Adding a text does not move the indentation. -/
@[simp] theorem level_add (p : Printer) (text : String) : (p.add text).level = p.level := by
  have hfold (ls : List (List Char)) (q : Printer) : (ls.foldl addLine q).level = q.level := by
    induction ls generalizing q with
    | nil => rfl
    | cons line rest ih => exact (ih _).trans (level_addLine q line)
  exact hfold _ p

@[simp] theorem level_printTexts (p : Printer) (texts : List String) :
    (p.printTexts texts).level = p.level := by
  induction texts generalizing p with
  | nil => rfl
  | cons text rest ih => exact (ih _).trans (level_add p text)

/-- Neither does printing lines. -/
@[simp] theorem level_printLines (p : Printer) (texts : List String) :
    (p.printLines texts).level = p.level := by
  have hfold (ts : List String) (q : Printer) :
      (ts.foldl (fun p text => (p.add text).add "\n") q).level = q.level := by
    induction ts generalizing q with
    | nil => rfl
    | cons text rest ih => exact (ih _).trans (by simp)
  exact hfold _ p

/-- After steps that all succeed come the next ones. -/
theorem runAll_append {xs : List Step} : ∀ {p r : Printer}, p.runAll xs = (r, true) →
    ∀ ys : List Step, p.runAll (xs ++ ys) = r.runAll ys := by
  induction xs with
  | nil =>
    intro p r h ys
    rw [runAll] at h
    rw [List.nil_append, (Prod.mk.inj h).1]
  | cons x rest ih =>
    intro p r h ys
    rw [runAll] at h
    rw [List.cons_append, runAll]
    rcases hx : p.run x with ⟨q, ok⟩
    rw [hx] at h
    cases ok with
    | true => exact ih h ys
    | false => cases h

/-- Steps that all succeed, turn one printer into the other and leave the indentation as it was. -/
structure Printed (p : Printer) (steps : List Step) (q : Printer) : Prop where
  runAll : p.runAll steps = (q, true)
  level : q.level = p.level

/-- The steps that print a block after a blank line. -/
def blockSteps (text : String) : List Step := [.lines [], .lines [Text.dropTrailing '\n' text]]

namespace Printed

variable {p q r : Printer} {xs ys : List Step}

/-- No steps print nothing. -/
theorem nil (p : Printer) : Printed p [] p := ⟨rfl, rfl⟩

/-- Lines are one step. -/
theorem lines (p : Printer) (texts : List String) :
    Printed p [.lines texts] (p.printLines texts) := ⟨rfl, level_printLines p texts⟩

/-- A text without a line feed of its own is one step. -/
theorem text (p : Printer) (s : String) : Printed p [.texts [s]] (p.printTexts [s]) :=
  ⟨rfl, level_printTexts p [s]⟩

/-- Steps that start where others end can be put after these. -/
theorem append (hx : Printed p xs r) (hy : Printed r ys q) : Printed p (xs ++ ys) q :=
  ⟨(runAll_append hx.runAll ys).trans hy.runAll, hy.level.trans hx.level⟩

/-- So can they be put after one step. -/
theorem cons {x : Step} (hx : Printed p [x] r) (hy : Printed r ys q) : Printed p (x :: ys) q :=
  hx.append hy

/-- A block after a blank line. -/
theorem block_lines (p : Printer) (s : String) :
    Printed p (blockSteps s) ((p.printLines []).printLines [Text.dropTrailing '\n' s]) :=
  (lines p []).cons (lines _ _)

/-- Steps one level further in, back out at the end. -/
theorem block (h : Printed p.indent xs r) : Printed p [.block xs] (r.outdent?.getD r) := by
  have hlevel : r.level = p.level + 1 := h.level
  have hout : r.outdent? = some { r with level := p.level } := by
    rw [outdent?, hlevel]
  rw [hout]
  refine ⟨?_, rfl⟩
  have hrun : p.run (.block xs) = ({ r with level := p.level }, true) := by
    unfold run
    rw [h.runAll]
    simp only [goOut, hout, Bool.and_true]
  rw [Printer.runAll, hrun]
  rfl

end Printed

end Printer

/-! ## Emissions -/

namespace Emission

/-- An emission is printed to the end and turns one printer into the other. -/
def Yields (a : Emission) (p q : Printer) : Prop := a p = (q, .ok ())

section
variable {a b : Emission} {p q : Printer}

/-- Nothing leaves the printer as it is. -/
theorem yields_nothing : nothing.Yields p q ↔ p = q := by
  simp [Yields, nothing]

/-- Lines are always printed to the end. -/
theorem yields_lines {texts : List String} : (lines texts).Yields p q ↔ p.printLines texts = q := by
  simp [Yields, lines]

theorem yields_text {s : String} : (text s).Yields p q ↔ p.printTexts [s] = q := by
  simp [Yields, text]

/-- Of two emissions one after the other, each is printed to the end. -/
theorem yields_andThen : (a.andThen b).Yields p q ↔ ∃ r, a.Yields p r ∧ b.Yields r q := by
  rcases hp : a p with ⟨r, _ | _⟩ <;> simp [Yields, andThen, hp]

theorem yields_all_nil : (all []).Yields p q ↔ p = q := yields_nothing

/-- So it is for a list of emissions, from the first one on. -/
theorem yields_all_cons {es : List Emission} :
    (all (a :: es)).Yields p q ↔ ∃ r, a.Yields p r ∧ (all es).Yields r q := yields_andThen

/-- A block is printed one level further in, and the level is put back. -/
theorem yields_inside :
    a.inside.Yields p q ↔ ∃ r, a.Yields p.indent r ∧ r.outdent?.getD r = q := by
  rcases hp : a p.indent with ⟨r, _ | _⟩ <;> simp [Yields, inside, hp]

/-- What depends on a value is printed to the end only if there is the value. -/
theorem yields_on {α : Type} {value : Except (Failure GenerationError) α} {next : α → Emission} :
    (on value next).Yields p q ↔ ∃ x, value = .ok x ∧ (next x).Yields p q := by
  cases value <;> simp [Yields, on, stop]

/-- So it is if the value fails with an unexpected fault. -/
theorem yields_onValue {α : Type} {value : Except Fault α} {next : α → Emission} :
    (onValue value next).Yields p q ↔ ∃ x, value = .ok x ∧ (next x).Yields p q := by
  rw [onValue, yields_on]
  cases value <;> simp [Failure.escape, Except.mapError]

/-- A block of which the text is made of a value is printed after a blank line. -/
theorem printed_block {α : Type} {value : Except Fault α} {block : α → String}
    (h : (all [.lines [], .onValue value fun x =>
      .lines [Text.dropTrailing '\n' (block x)]]).Yields p q) :
    ∃ x, value = .ok x ∧ Printer.Printed p (Printer.blockSteps (block x)) q := by
  obtain ⟨r, hblank, h⟩ := yields_all_cons.1 h
  obtain ⟨r', h, hend⟩ := yields_all_cons.1 h
  obtain ⟨x, hx, h⟩ := yields_onValue.1 h
  rw [yields_lines] at hblank h
  rw [yields_all_nil] at hend
  subst hblank h hend
  exact ⟨x, hx, .block_lines p _⟩

end

end Emission

end SchemaToSwift
