import Mathlib.Data.List.TakeWhile
import SchemaToSwift.Text.Blank
import SchemaToSwift.Text.Case

/-!
# Trimming

Trimming takes the blank characters off the ends of a text, however many there are
(`trimWhere_append`), and nothing else (`trimWhere_of_not`). Blank characters have no case, so they
stay in the lower-case form of a text (`lowerChar_of_isBlank`, `mem_lower`).
-/

namespace SchemaToSwift.Text

section
variable {p : Char → Bool} {before after cs : List Char}

/-- Nothing is left of a text exactly if it is all of the class. -/
theorem trimWhere_eq_nil : trimWhere p cs = [] ↔ ∀ c ∈ cs, p c = true := by
  rw [trimWhere, List.reverse_eq_nil_iff, List.dropWhile_eq_nil_iff]
  constructor
  · intro h c hc
    by_cases hnil : cs.dropWhile p = []
    · exact List.dropWhile_eq_nil_iff.1 hnil c hc
    · have hhead := List.head_dropWhile_not p hnil
      rw [h _ (List.mem_reverse.2 (List.head_mem hnil))] at hhead
      cases hhead
  · exact fun h c hc => h c ((List.dropWhile_sublist p).subset (List.mem_reverse.1 hc))

/-- What stands at the ends goes. -/
theorem trimWhere_append (hbefore : ∀ c ∈ before, p c = true) (hafter : ∀ c ∈ after, p c = true)
    (cs : List Char) : trimWhere p (before ++ cs ++ after) = trimWhere p cs := by
  rw [trimWhere, List.append_assoc, List.dropWhile_append_of_pos hbefore, List.dropWhile_append]
  split
  · next hempty =>
    have hnil : cs.dropWhile p = [] := List.isEmpty_iff.1 hempty
    rw [List.dropWhile_eq_nil_iff.2 hafter, trimWhere, hnil]
  · rw [List.reverse_append, List.dropWhile_append_of_pos (by simpa using hafter), trimWhere]

/-- A text of other characters is left alone. -/
theorem trimWhere_of_not (h : ∀ c ∈ cs, p c = false) : trimWhere p cs = cs := by
  have hkeep {xs : List Char} (hxs : ∀ c ∈ xs, p c = false) : xs.dropWhile p = xs := by
    cases xs with
    | nil => rfl
    | cons c rest => rw [List.dropWhile_cons, hxs c (.head _), if_neg Bool.false_ne_true]
  rw [trimWhere, hkeep h, hkeep (by simpa using h), List.reverse_reverse]

end

/-! ## Blank characters have no case -/

/-- The code points of the blank characters. -/
def blankCodes : List Nat := [9, 10, 11, 12, 13, 28, 29, 30, 31, 32, 0x85, 0xa0, 0x1680, 0x2000,
  0x2001, 0x2002, 0x2003, 0x2004, 0x2005, 0x2006, 0x2007, 0x2008, 0x2009, 0x200a, 0x2028, 0x2029,
  0x202f, 0x205f, 0x3000]

/-- The blanks are the characters of the table. -/
theorem mem_blankCodes {c : Char} (h : isBlank c = true) : c.toNat ∈ blankCodes := by
  simp only [isBlank, Bool.or_eq_true, Bool.and_eq_true, decide_eq_true_eq, beq_iff_eq] at h
  simp only [blankCodes, List.mem_cons, List.not_mem_nil, or_false]
  omega

/-- Each of them is its own lower-case form. -/
theorem lowerChar_blankCodes :
    ∀ n ∈ blankCodes, lowerChar (Char.ofNat n) = [Char.ofNat n] ∧ Char.ofNat n ≠ 'Σ' := by
  decide

/-- So a blank stays as it is. -/
theorem lowerChar_of_isBlank {c : Char} (h : isBlank c = true) :
    lowerChar c = [c] ∧ c ≠ 'Σ' := by
  have hcode := lowerChar_blankCodes _ (mem_blankCodes h)
  rwa [Char.ofNat_toNat] at hcode

/-- A character without case stays in the lower-case form of a text. -/
theorem mem_lowerFrom {c : Char} (hlower : lowerChar c = [c]) (hsigma : c ≠ 'Σ') {cs : List Char}
    (hc : c ∈ cs) (afterCased : Bool) : c ∈ lowerFrom afterCased cs := by
  induction cs generalizing afterCased with
  | nil => cases hc
  | cons d rest ih =>
    rw [lowerFrom, List.mem_append]
    rcases List.mem_cons.1 hc with rfl | hc
    · refine .inl ?_
      rw [if_neg (by simpa using hsigma), hlower]
      exact .head _
    · exact .inr (ih hc _)

/-- A character that stays as it is, is in the lower-case form of a text that it is in. -/
theorem mem_lower {c : Char} (hlower : lowerChar c = [c]) (hsigma : c ≠ 'Σ') {s : String}
    (hc : c ∈ s.toList) : c ∈ (lower s).toList := by
  rw [lower, String.toList_ofList]
  exact mem_lowerFrom hlower hsigma hc false

end SchemaToSwift.Text
