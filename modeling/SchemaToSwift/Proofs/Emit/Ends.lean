import SchemaToSwift.Emit.Basic
import SchemaToSwift.Proofs.Result

/-!
# How emissions end

Nothing that an emission prints changes how it ends, so it ends the same way whatever printer it
starts with (`Emission.Ends`). The end of a compound emission follows from the ends of its parts: it
is that of the first part that stops. An emission that stops with a reported error or not at all
ends with a `verdict`.
-/

namespace SchemaToSwift

namespace Emission

/-- How an emission ends. -/
abbrev End := Except (Failure GenerationError) Unit

/-- An emission ends in a way that does not depend on the printer. -/
def Ends (a : Emission) (r : End) : Prop := ∀ p, (a p).2 = r

/-- The end of what is refused with an error, or printed to the end. -/
def verdict : Option GenerationError → End
  | none => .ok ()
  | some e => .error (.reported e)

@[simp] theorem verdict_none : verdict none = .ok () := rfl

@[simp] theorem verdict_some (e : GenerationError) : verdict (some e) = .error (.reported e) := rfl

/-- Nothing after an end changes it. -/
theorem verdict_bind_ok (v : Option GenerationError) :
    (verdict v >>= fun _ => .ok ()) = verdict v := by
  cases v <;> rfl

section
variable {a b : Emission} {r : End} {e : Failure GenerationError}

/-! ## Parts -/

/-- Nothing gets to the end. -/
theorem ends_nothing : nothing.Ends (.ok ()) := fun _ => rfl

/-- What stops at once ends with its error. -/
theorem ends_stop : (stop e).Ends (.error e) := fun _ => rfl

/-- Lines get to the end. -/
theorem ends_lines (texts : List String) : (lines texts).Ends (.ok ()) := fun _ => rfl

/-- So does a text. -/
theorem ends_text (s : String) : (text s).Ends (.ok ()) := fun _ => rfl

/-! ## Compounds -/

/-- After a part that is printed to the end the next one decides. -/
theorem Ends.andThen (ha : a.Ends (.ok ())) (hb : b.Ends r) : (a.andThen b).Ends r := by
  intro p
  have hap := ha p
  rcases hp : a p with ⟨q, s⟩
  rw [hp] at hap
  subst hap
  simpa only [Emission.andThen, hp] using hb q

/-- After a part that stops nothing is printed. -/
theorem Ends.andThen_stop (ha : a.Ends (.error e)) (b : Emission) :
    (a.andThen b).Ends (.error e) := by
  intro p
  have hap := ha p
  rcases hp : a p with ⟨q, s⟩
  rw [hp] at hap
  subst hap
  simp only [Emission.andThen, hp]

/-- Before a part that is always printed to the end the first one decides. -/
theorem Ends.andThen_ok (ha : a.Ends r) (hb : b.Ends (.ok ())) : (a.andThen b).Ends r := by
  cases r with
  | ok => exact ha.andThen hb
  | error e => exact ha.andThen_stop b

/-- Of two verdicts the first error counts. -/
theorem Ends.andThen_verdict {v w : Option GenerationError} (ha : a.Ends (verdict v))
    (hb : b.Ends (verdict w)) : (a.andThen b).Ends (verdict (v.or w)) := by
  cases v with
  | none => exact ha.andThen hb
  | some e => exact ha.andThen_stop b

theorem ends_all_nil : (all []).Ends (.ok ()) := ends_nothing

/-- A list ends as the others do if the first gets to the end. -/
theorem Ends.all_cons {es : List Emission} (ha : a.Ends (.ok ())) (hes : (all es).Ends r) :
    (all (a :: es)).Ends r := ha.andThen hes

/-- It ends as the first does if this fails. -/
theorem Ends.all_cons_stop (ha : a.Ends (.error e)) (es : List Emission) :
    (all (a :: es)).Ends (.error e) := ha.andThen_stop _

/-- Where all parts are printed to the end, so is the whole. -/
theorem ends_all : ∀ {es : List Emission}, (∀ a ∈ es, a.Ends (.ok ())) → (all es).Ends (.ok ())
  | [], _ => ends_all_nil
  | _ :: _, h => (h _ (.head _)).all_cons (ends_all fun b hb => h b (.tail _ hb))

/-- A block ends as what is in it. -/
theorem Ends.inside (ha : a.Ends r) : a.inside.Ends r := fun p => ha p.indent

/-- With its value, what depends on a value ends as it does for this one. -/
theorem ends_on {α : Type} {value : Except (Failure GenerationError) α} {next : α → Emission}
    {x : α} (hv : value = .ok x) (hn : (next x).Ends r) : (on value next).Ends r := by
  subst hv
  exact hn

/-- Without it, the end is the error. -/
theorem ends_on_error {α : Type} {value : Except (Failure GenerationError) α}
    (next : α → Emission) (hv : value = .error e) : (on value next).Ends (.error e) := by
  subst hv
  exact ends_stop

/-- So it is if the value fails with an unexpected fault: with the value the end is that of the
rest. -/
theorem ends_onValue {α : Type} {value : Except Fault α} {next : α → Emission} {x : α}
    (hv : value = .ok x) (hn : (next x).Ends r) : (onValue value next).Ends r :=
  ends_on (congrArg Failure.escape hv) hn

/-- Without it, the fault escapes. -/
theorem ends_onValue_error {α : Type} {value : Except Fault α} {fault : Fault}
    (next : α → Emission) (hv : value = .error fault) :
    (onValue value next).Ends (.error (.escaped fault)) :=
  ends_on_error next (congrArg Failure.escape hv)

end

end Emission

end SchemaToSwift
