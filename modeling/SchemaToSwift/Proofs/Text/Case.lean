import SchemaToSwift.Text.Case

/-!
# Characters before the letters

No case mapping makes a blank, a digit or a punctuation mark out of another character: what comes
before the letters among the code points is in the upper-case or the lower-case form of a text only
if it is in the text (`eq_of_mem_upperChar`, `mem_of_mem_lowerChars`).
-/

namespace SchemaToSwift.Text

/-- What is true of the code points below 128 is true of the characters that need no table. -/
theorem forall_ascii {P : Char → Prop} (h : ∀ n < 128, P (Char.ofNat n)) {c : Char}
    (hc : isAscii c = true) : P c := by
  rw [← Char.ofNat_toNat c]
  exact h _ (of_decide_eq_true hc)

/-- A character whose code point comes before those of the letters, other than the null. -/
def BeforeLetters (d : Char) : Prop := 0 < d.toNat ∧ d.toNat < 65
deriving Decidable

/-- Another code point is another character, valid or not. -/
theorem BeforeLetters.ofNat_ne {d : Char} (hd : BeforeLetters d) {n : Nat} (h : 65 ≤ n) :
    Char.ofNat n ≠ d := by
  intro heq
  have hcode := congrArg Char.toNat heq
  have hlt := hd.2
  by_cases hvalid : n.isValidChar
  · rw [Char.ofNat, dif_pos hvalid] at hcode
    change n = d.toNat at hcode
    omega
  · rw [Char.ofNat, dif_neg hvalid] at hcode
    exact absurd hd.1 (by rw [← hcode]; decide)

/-- Shifted characters are letters. -/
theorem le_of_shifted {table : List Shift}
    (htable : ∀ s ∈ table, (65 : Int) ≤ Int.ofNat s.first + s.delta) {n m : Nat}
    (h : shifted? table n = some m) : 65 ≤ m := by
  obtain ⟨s, hfind, rfl⟩ := Option.map_eq_some_iff.1 h
  have hdelta := htable s (List.mem_of_find?_eq_some hfind)
  have hrun := List.find?_some hfind
  simp only [Shift.run, Run.contains, Bool.and_eq_true] at hrun
  have hfirst : s.first ≤ n := of_decide_eq_true hrun.1.1
  simp only [Int.ofNat_eq_natCast] at hdelta ⊢
  omega

/-! ## Tables -/

/-- No upper-case form of several characters has one from before the letters. -/
theorem le_upperSequences :
    ∀ entry ∈ CaseTable.upperSequences, ∀ code ∈ entry.2, 65 ≤ code := by decide +kernel

/-- No shift to upper case ends before the letters. -/
theorem le_upperShifts :
    ∀ s ∈ CaseTable.upperShifts, (65 : Int) ≤ Int.ofNat s.first + s.delta := by decide +kernel

/-- Nor does one to lower case. -/
theorem le_lowerShifts :
    ∀ s ∈ CaseTable.lowerShifts, (65 : Int) ≤ Int.ofNat s.first + s.delta := by decide +kernel

/-! ## Mappings -/

section
variable {c d : Char} (hd : BeforeLetters d)
include hd

/-- No other character has one before the letters in its upper-case form. -/
theorem eq_of_mem_upperChar (h : d ∈ upperChar c) : d = c := by
  unfold upperChar at h
  split at h
  · next hascii =>
    have hupper : c.toUpper = c ∨ 65 ≤ c.toUpper.toNat :=
      forall_ascii (P := fun c => c.toUpper = c ∨ 65 ≤ c.toUpper.toNat) (by decide) hascii
    have heq := List.mem_singleton.1 h
    rcases hupper with hsame | hletter
    · exact heq.trans hsame
    · exact absurd (heq ▸ hd.2) (Nat.not_lt.2 hletter)
  · split at h
    · next codes hlookup =>
      obtain ⟨before, after, htable, -⟩ := List.lookup_eq_some_iff.1 hlookup
      obtain ⟨n, hn, hcode⟩ := List.mem_map.1 h
      have hletter := le_upperSequences (c.toNat, codes) (by rw [htable]; simp) n hn
      exact absurd hcode (hd.ofNat_ne hletter)
    · split at h
      · next n hshift =>
        have hletter := le_of_shifted le_upperShifts hshift
        exact absurd (List.mem_singleton.1 h).symm (hd.ofNat_ne hletter)
      · exact List.mem_singleton.1 h

/-- No other character has one before the letters in its lower-case form. -/
theorem eq_of_mem_lowerChar (h : d ∈ lowerChar c) : d = c := by
  unfold lowerChar at h
  split at h
  · next hascii =>
    have hlower : c.toLower = c ∨ 65 ≤ c.toLower.toNat :=
      forall_ascii (P := fun c => c.toLower = c ∨ 65 ≤ c.toLower.toNat) (by decide) hascii
    have heq := List.mem_singleton.1 h
    rcases hlower with hsame | hletter
    · exact heq.trans hsame
    · exact absurd (heq ▸ hd.2) (Nat.not_lt.2 hletter)
  · split at h
    · have hletters : ∀ e ∈ ['i', '\u0307'], 65 ≤ e.toNat := by
        simp only [List.forall_mem_cons, List.not_mem_nil, false_implies, implies_true, and_true]
        decide
      exact absurd hd.2 (Nat.not_lt.2 (hletters d h))
    · split at h
      · next n hshift =>
        have hletter := le_of_shifted le_lowerShifts hshift
        exact absurd (List.mem_singleton.1 h).symm (hd.ofNat_ne hletter)
      · exact List.mem_singleton.1 h

/-- The form of a sigma depends on what stands before it, so the induction is over any such
beginning. -/
theorem mem_of_mem_lowerFrom {afterCased : Bool} {cs : List Char}
    (h : d ∈ lowerFrom afterCased cs) : d ∈ cs := by
  induction cs generalizing afterCased with
  | nil => exact h
  | cons c rest ih =>
    rw [lowerFrom, List.mem_append] at h
    rcases h with hfirst | hrest
    · split at hfirst
      · have hsigma : d ≠ 'ς' ∧ d ≠ 'σ' := by
          constructor <;> rintro rfl <;> exact absurd hd (by decide)
        split at hfirst
        · exact absurd (List.mem_singleton.1 hfirst) hsigma.1
        · exact absurd (List.mem_singleton.1 hfirst) hsigma.2
      · exact List.mem_cons.2 (.inl (eq_of_mem_lowerChar hd hfirst))
    · exact .tail _ (ih hrest)

/-- What comes before the letters is in the lower-case form of a text only if it is in the text. -/
theorem mem_of_mem_lowerChars {cs : List Char} (h : d ∈ lowerChars cs) : d ∈ cs :=
  mem_of_mem_lowerFrom hd h

end

end SchemaToSwift.Text
