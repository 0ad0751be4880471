import Mathlib.Data.List.Chain
import SchemaToSwift.Text.Identifier
import SchemaToSwift.Text.Point

/-!
# Texts that a document can hold

A text stands for code points (`Text.Point`), and in a document the two halves of a surrogate pair
are one character. So a text that a document can hold is the writing of code points among which no
first half stands before a second one: it is `Text.WellFormed`. Every text without marks is one. Any
writing of code points is determined by their numbers (`Text.Canonical`).
-/

namespace SchemaToSwift.Text

/-- The first half of a surrogate pair. -/
def Point.isHigh : Point → Bool
  | .char _ => false
  | .half offset => offset.val < 1024

/-- The second half of a surrogate pair. -/
def Point.isLow : Point → Bool
  | .char _ => false
  | .half offset => 1024 ≤ offset.val

/-- Code points among which no surrogate pair stands in its two halves. -/
def Joined : List Point → Prop := List.IsChain fun p q => ¬ (p.isHigh = true ∧ q.isLow = true)

/-- A text that is the writing of code points, whatever these are. -/
def Canonical (s : String) : Prop := ∃ ps, s = ofPoints ps

/-- A text that a document can hold. -/
def WellFormed (s : String) : Prop := ∃ ps, s = ofPoints ps ∧ Joined ps

theorem WellFormed.canonical {s : String} (h : WellFormed s) : Canonical s :=
  h.imp fun _ hps => hps.1

/-! ## Code points of a text -/

/-- The code points of the writing of code points. -/
theorem points_ofPoints (ps : List Point) : points (ofPoints ps).toList = ps := by
  rw [ofPoints, String.toList_ofList, points_flatMap_chars]

/-- The writing of code points is written with the code points that it stands for. -/
theorem Canonical.ofPoints_points {s : String} (h : Canonical s) :
    ofPoints (points s.toList) = s := by
  obtain ⟨ps, rfl⟩ := h
  rw [points_ofPoints]

/-- The code points of such a text are joined. -/
theorem WellFormed.joined {s : String} (h : WellFormed s) : Joined (points s.toList) := by
  obtain ⟨ps, rfl, hjoined⟩ := h
  rwa [points_ofPoints]

/-- Characters other than the mark stand for themselves. -/
theorem points_of_noMark : ∀ {cs : List Char}, mark ∉ cs → points cs = cs.map .char
  | [], _ => rfl
  | c :: rest, h => by
    rw [List.mem_cons, not_or] at h
    rw [points_cons_of_ne (Ne.symm h.1), points_of_noMark h.2, List.map_cons]

/-- A character that is neither a mark nor a stand-in separates code points. -/
theorem points_append_cons {c : Char} (hmark : c ≠ mark) (hhalf : half? c = none)
    (xs ys : List Char) : points (xs ++ c :: ys) = points xs ++ .char c :: points ys := by
  induction xs using points.induct with
  | case1 => exact points_cons_of_ne hmark ys
  | case2 a =>
    by_cases ha : a = mark
    · simp [points, ha, hmark, hhalf, points_cons_of_ne hmark]
    · simp [points_cons_of_ne ha, points_cons_of_ne hmark, points]
  | case3 rest ih => simp [points, ih]
  | case4 d rest hd offset hoffset ih => simp [points, hd, hoffset, ih]
  | case5 d rest hd hnone ih =>
    rw [List.cons_append] at ih
    simp [points, hd, hnone, ih]
  | case6 a d rest ha ih =>
    rw [List.cons_append, points_cons_of_ne ha, points_cons_of_ne ha, ih, List.cons_append]

/-! ## Texts without marks -/

/-- Characters are no halves. -/
theorem joined_map_char (cs : List Char) : Joined (cs.map .char) := by
  rw [Joined, List.isChain_map]
  induction cs with
  | nil => exact .nil
  | cons c rest ih =>
    rw [List.isChain_cons]
    exact ⟨fun d _ hboth => absurd hboth.1 (by simp [Point.isHigh]), ih⟩

/-- Characters other than the mark are written as themselves. -/
theorem flatMap_chars_of_noMark {cs : List Char} (h : mark ∉ cs) :
    (cs.map Point.char).flatMap Point.chars = cs := by
  rw [List.flatMap_map]
  refine (List.flatMap_congr fun c hc => ?_).trans (List.flatMap_singleton' _)
  have hne : c ≠ mark := fun hc' => h (hc' ▸ hc)
  simp [Point.chars, hne]

theorem ofPoints_map_char {s : String} (h : mark ∉ s.toList) :
    ofPoints (s.toList.map .char) = s := by
  rw [ofPoints, flatMap_chars_of_noMark h, String.ofList_toList]

/-- A document can hold any text without marks. -/
theorem wellFormed_of_noMark {s : String} (h : mark ∉ s.toList) : WellFormed s :=
  ⟨s.toList.map .char, (ofPoints_map_char h).symm, joined_map_char _⟩

/-- A text without marks has no half. -/
theorem hasHalf_of_noMark {s : String} (h : mark ∉ s.toList) : hasHalf s = false := by
  rw [hasHalf, points_of_noMark h, List.any_map, List.any_eq_false]
  simp [Point.isHalf]

/-- The mark is in no identifier. -/
theorem mark_not_continues : continuesIdentifier mark = false := by decide +kernel

theorem mark_not_starts : startsIdentifier mark = false := by decide +kernel

/-- A document can hold any identifier. -/
theorem wellFormed_of_isIdentifier {s : String} (h : isIdentifier s = true) : WellFormed s := by
  refine wellFormed_of_noMark fun hmark => ?_
  unfold isIdentifier at h
  cases hs : s.toList with
  | nil => rw [hs] at hmark; cases hmark
  | cons c rest =>
    rw [hs] at h hmark
    simp only [Bool.and_eq_true, List.all_eq_true] at h
    rcases List.mem_cons.1 hmark with hc | hrest
    · rw [← hc, mark_not_starts] at h
      exact absurd h.1 (by simp)
    · have hcontinues := h.2 mark hrest
      rw [mark_not_continues] at hcontinues
      cases hcontinues

/-! ## Numbers of code points -/

/-- No character has the number of a half. -/
theorem toNat_ne_half (c : Char) : c.toNat < 0xd800 ∨ 0xdfff < c.toNat := by
  have h := c.valid
  simp only [UInt32.isValidChar, Nat.isValidChar] at h
  simp only [Char.toNat]
  omega

/-- The code point of a character is below the limit. -/
theorem toNat_lt (c : Char) : c.toNat < 0x110000 := by
  have h := c.valid
  simp only [UInt32.isValidChar, Nat.isValidChar] at h
  simp only [Char.toNat]
  omega

/-- Different code points have different numbers. -/
theorem Point.code_injective : Function.Injective Point.code := by
  intro p q h
  cases p with
  | char c =>
    cases q with
    | char d => rw [Char.toNat_inj.1 h]
    | half o =>
      have hc := toNat_ne_half c
      simp only [code, firstHalf] at h
      omega
  | half o =>
    cases q with
    | char d =>
      have hd := toNat_ne_half d
      simp only [code, firstHalf] at h
      omega
    | half o' =>
      simp only [code, Nat.add_left_cancel_iff] at h
      rw [Fin.ext h]

/-- The writing of code points is determined by their numbers. -/
theorem Canonical.eq_of_codes {s t : String} (hs : Canonical s) (ht : Canonical t)
    (h : codes s = codes t) : s = t := by
  rw [← hs.ofPoints_points, ← ht.ofPoints_points]
  exact congrArg ofPoints (List.map_injective_iff.2 Point.code_injective h)

end SchemaToSwift.Text
