import SchemaToSwift.Block.Enum
import SchemaToSwift.Proofs.Text.Dotted

/-!
# Texts of one line

A text without line feeds stays one line when parts are taken from it and when texts of one line are
put together (`OneLine`). What holds of each line of a text (`EachLine`) is read off the texts that
it is made of: lines that end with a line feed or have one between them.
-/

namespace SchemaToSwift.Text

/-- A text without line feeds. -/
def OneLine (s : String) : Prop := '\n' ∉ s.toList
deriving Decidable

section
variable {s u : String}

/-- Texts put together are one line if and only if each is. -/
@[simp] theorem oneLine_append : OneLine (s ++ u) ↔ OneLine s ∧ OneLine u := by
  rw [OneLine, String.toList_append, List.mem_append, not_or]
  rfl

/-- A text with characters of a text of one line only is one line too. -/
theorem OneLine.of_subset (h : OneLine s) (hsub : u.toList ⊆ s.toList) : OneLine u :=
  fun hmem => h (hsub hmem)

/-- Dropping characters at the beginning breaks no line. -/
theorem OneLine.dropLeading (h : OneLine s) (c : Char) : OneLine (dropLeading c s) := by
  refine h.of_subset ?_
  rw [Text.dropLeading, String.toList_ofList]
  exact (List.dropWhile_sublist _).subset

/-- Nor does dropping characters at the end. -/
theorem OneLine.dropTrailing (h : OneLine s) (c : Char) : OneLine (dropTrailing c s) := by
  refine h.of_subset fun d hd => ?_
  rw [Text.dropTrailing, String.toList_ofList, List.mem_reverse] at hd
  exact List.mem_reverse.1 ((List.dropWhile_sublist _).subset hd)

/-- The two sides of the last dot are in the text. -/
theorem OneLine.cutLast (h : OneLine s) : OneLine (scopeOf s) ∧ OneLine (lastComponent s) := by
  rw [scopeOf, lastComponent]
  rcases cutLast_cases '.' s.toList with ⟨-, hcut⟩ | ⟨xs, ys, -, hchars, hcut⟩
  · rw [hcut, String.ofList_toList]
    exact ⟨show OneLine "" by decide, h⟩
  · have hsides : '\n' ∉ xs ∧ '\n' ∉ ys := by
      rw [OneLine, hchars, List.mem_append, List.mem_cons] at h
      tauto
    rw [hcut]
    exact ⟨by simpa [OneLine] using hsides.1, by simpa [OneLine] using hsides.2⟩

/-- The parts of a text of one line are one line. -/
theorem OneLine.parts (h : OneLine s) (sep : Char) : ∀ part ∈ parts sep s, OneLine part := by
  intro part hpart
  obtain ⟨cs, hcs, rfl⟩ := List.mem_map.1 hpart
  refine h.of_subset ?_
  rw [String.toList_ofList]
  exact (sublist_of_mem_splitAt hcs).subset

/-- Texts of one line put together are one line, if what stands between them is. -/
theorem OneLine.intercalate {sep : String} (hsep : OneLine sep) {texts : List String}
    (h : ∀ s ∈ texts, OneLine s) : OneLine (sep.intercalate texts) := by
  intro hmem
  rcases mem_intercalate hmem with hbetween | ⟨s, hs, hfeed⟩
  · exact hsep hbetween
  · exact h s hs hfeed

end

/-- A number is written with digits, and a minus in front of a negative one. -/
theorem not_mem_toString {c : Char} (hdigit : c.isDigit = false) (hminus : c ≠ '-') (n : Int) :
    c ∉ (toString n).toList := by
  have hdigits (m : Nat) : c ∉ m.repr.toList := fun h => by
    rw [Nat.toList_repr] at h
    have hc := Nat.isDigit_of_mem_toDigits (by decide) (by decide) h
    rw [hdigit] at hc
    cases hc
  rw [Int.toString_eq_repr, Int.repr_eq_if]
  split
  · exact hdigits _
  · have hsign : "-".toList = ['-'] := rfl
    rw [String.toList_append, List.mem_append, not_or, hsign, List.mem_singleton]
    exact ⟨hminus, hdigits _⟩

/-- So a number is one line. -/
theorem oneLine_toString (n : Int) : OneLine (toString n) :=
  not_mem_toString (by decide) (by decide) n

/-! ## The lines of a text -/

/-- Every line of the text has the property. -/
def EachLine (P : String → Prop) (s : String) : Prop := ∀ line ∈ parts '\n' s, P line

section
variable {P Q : String → Prop} {s u : String}

/-- What follows from the property of lines is one too. -/
theorem EachLine.mono (h : EachLine P s) (hPQ : ∀ line, P line → Q line) : EachLine Q s :=
  fun line hline => hPQ line (h line hline)

/-- The lines of two texts with a line feed between them are those of both. -/
theorem eachLine_feed : EachLine P (s ++ "\n" ++ u) ↔ EachLine P s ∧ EachLine P u := by
  have hchars : (s ++ "\n" ++ u).toList = s.toList ++ '\n' :: u.toList := by simp
  rw [EachLine, parts, hchars, splitAt_append_cons, List.map_append, List.forall_mem_append]
  rfl

/-- A text of one line is its only line. -/
theorem OneLine.parts_lines (h : OneLine s) : Text.parts '\n' s = [s] := by
  rw [Text.parts, splitAt_of_not_mem h, List.map_singleton, String.ofList_toList]

/-- So a text of one line has what its line has. -/
theorem OneLine.eachLine (h : OneLine s) (hs : P s) : EachLine P s := by
  rwa [EachLine, h.parts_lines, List.forall_mem_singleton]

/-- A property of the lines of texts holds of the lines of what they make with line feeds after
them, whatever follows. -/
theorem eachLine_unlines_append {texts : List String} (h : ∀ s ∈ texts, EachLine P s)
    (hu : EachLine P u) : EachLine P (unlines texts ++ u) := by
  induction texts with
  | nil => rwa [show unlines [] = "" from rfl, String.empty_append]
  | cons s rest ih =>
    obtain ⟨hs, hrest⟩ := List.forall_mem_cons.1 h
    have hunlines : unlines (s :: rest) = s ++ "\n" ++ unlines rest := by
      rw [unlines, unlines, List.map_cons, String.join_cons]
    rw [hunlines, String.append_assoc, eachLine_feed]
    exact ⟨hs, ih hrest⟩

/-- Nothing but an empty line comes after the last line feed. -/
theorem eachLine_unlines {texts : List String} (hempty : P "") (h : ∀ s ∈ texts, EachLine P s) :
    EachLine P (unlines texts) := by
  have hlines := eachLine_unlines_append (u := "") h (OneLine.eachLine (by decide) hempty)
  rwa [String.append_empty] at hlines

/-- So it does of the lines of what they make with line feeds between them. -/
theorem eachLine_intercalate {texts : List String} (hne : texts ≠ [])
    (h : ∀ s ∈ texts, EachLine P s) : EachLine P ("\n".intercalate texts) := by
  induction texts with
  | nil => exact absurd rfl hne
  | cons s rest ih =>
    obtain ⟨hs, hrest⟩ := List.forall_mem_cons.1 h
    by_cases hnil : rest = []
    · rwa [hnil, String.intercalate_singleton]
    · rw [String.intercalate_cons_of_ne_nil hnil, eachLine_feed]
      exact ⟨hs, ih hnil hrest⟩

/-- Without the line feeds at its end a text has no other lines. -/
theorem EachLine.dropTrailing (h : EachLine P s) : EachLine P (dropTrailing '\n' s) := by
  have hchars : s.toList = (Text.dropTrailing '\n' s).toList ++
      (s.toList.reverse.takeWhile (· == '\n')).reverse := by
    rw [Text.dropTrailing, String.toList_ofList, ← List.reverse_append,
      List.takeWhile_append_dropWhile, List.reverse_reverse]
  have hfeeds : ∀ c ∈ (s.toList.reverse.takeWhile (· == '\n')).reverse, c = '\n' := fun c hc =>
    beq_iff_eq.1 (List.mem_takeWhile_imp (p := (· == '\n')) (List.mem_reverse.1 hc))
  cases hend : (s.toList.reverse.takeWhile (· == '\n')).reverse with
  | nil =>
    rw [hend, List.append_nil] at hchars
    rwa [← String.toList_injective hchars]
  | cons c rest =>
    rw [hend] at hchars hfeeds
    rw [hfeeds c (.head _)] at hchars
    rw [EachLine, parts, hchars, splitAt_append_cons, List.map_append] at h
    exact (List.forall_mem_append.1 h).1

end

end SchemaToSwift.Text
