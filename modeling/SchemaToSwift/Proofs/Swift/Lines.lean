import Mathlib.Data.List.Basic

/-!
# Lines of Swift source text

A line of source text is ended by a carriage return, a line feed or both together. What is put into
a line comment may end the line and begin another one, so a comment holds a text exactly if the
lines of the text after its first one are comment lines themselves (`isComments_append_iff`). Parts
with line feeds between them are comment lines exactly if each part is (`isComments_intercalate`).
-/

namespace SchemaToSwift.Swift

/-- A character that ends a line of source text. -/
def isLineBreak (c : Char) : Bool := c == '\n' || c == '\r'

/-- The first line of a source text, and the lines after it. -/
def cutLines : List Char → List Char × List (List Char)
  | [] => ([], [])
  | '\r' :: '\n' :: rest => ([], (cutLines rest).1 :: (cutLines rest).2)
  | c :: rest =>
    if isLineBreak c then ([], (cutLines rest).1 :: (cutLines rest).2)
    else (c :: (cutLines rest).1, (cutLines rest).2)

/-- The lines of a source text. -/
def lines (cs : List Char) : List (List Char) := (cutLines cs).1 :: (cutLines cs).2

/-- A line that is blank or a line comment. -/
def IsCommentLine (line : List Char) : Prop := line = [] ∨ ['/', '/'] <+: line
deriving Decidable

/-- A source text without anything but blank lines and line comments. -/
def IsComments (cs : List Char) : Prop := ∀ line ∈ lines cs, IsCommentLine line
deriving Decidable

/-- A text that gives blank lines and line comments only where it is put into a line comment: what
follows its first line break begins a comment itself. -/
def StaysInComment (cs : List Char) : Prop := ∀ line ∈ (cutLines cs).2, IsCommentLine line
deriving Decidable

section
variable {c : Char} {xs ys cs : List Char}

/-- A text is made of comments exactly if its first line is one and it stays in comments from there
on. -/
theorem isComments_iff : IsComments cs ↔ IsCommentLine (cutLines cs).1 ∧ StaysInComment cs :=
  List.forall_mem_cons

theorem isComments_nil : IsComments [] := by decide

theorem staysInComment_nil : StaysInComment [] := by decide

/-! ## The first line -/

/-- A carriage return and a line feed end one line. -/
theorem cutLines_return_lineFeed (rest : List Char) :
    cutLines ('\r' :: '\n' :: rest) = ([], lines rest) := rfl

/-- A line break that is not the first half of one ends the line. -/
theorem cutLines_cons_break (h : isLineBreak c = true) {rest : List Char}
    (hpair : c = '\r' → rest.head? ≠ some '\n') : cutLines (c :: rest) = ([], lines rest) := by
  rw [cutLines]
  · rw [if_pos h]
    rfl
  · rintro tail rfl rfl
    exact hpair rfl rfl

/-- A character other than a line break goes on with the line. -/
theorem cutLines_cons_of_not (h : isLineBreak c = false) (rest : List Char) :
    cutLines (c :: rest) = (c :: (cutLines rest).1, (cutLines rest).2) := by
  rw [cutLines]
  · simp only [h, Bool.false_eq_true, if_false]
  · rintro _ rfl
    cases h

/-- A text without line breaks is one line. -/
theorem cutLines_append_of_not_mem (h : ∀ c ∈ xs, isLineBreak c = false) (ys : List Char) :
    cutLines (xs ++ ys) = (xs ++ (cutLines ys).1, (cutLines ys).2) := by
  induction xs with
  | nil => rfl
  | cons c rest ih =>
    obtain ⟨hc, hrest⟩ := List.forall_mem_cons.1 h
    rw [List.cons_append, cutLines_cons_of_not hc, ih hrest]
    rfl

/-- A text without line breaks stays in the comment that it is in. -/
theorem staysInComment_of_not_mem (h : ∀ c ∈ cs, isLineBreak c = false) : StaysInComment cs := by
  rw [StaysInComment, ← List.append_nil cs, cutLines_append_of_not_mem h]
  nofun

/-- A line comment holds a text exactly if the text stays in it. -/
theorem isComments_append_iff (hmark : ['/', '/'] <+: xs) (h : xs.any isLineBreak = false)
    (ys : List Char) : IsComments (xs ++ ys) ↔ StaysInComment ys := by
  have hbreak : ∀ c ∈ xs, isLineBreak c = false := by simpa using h
  rw [isComments_iff, StaysInComment, cutLines_append_of_not_mem hbreak]
  exact and_iff_right (.inr (hmark.trans (List.prefix_append _ _)))

/-! ## Lines that a line feed ends -/

/-- A line feed after a text leaves its first line as it is, and the lines after it are those of the
text and of what follows. -/
theorem cutLines_append_lineFeed (xs ys : List Char) :
    (cutLines (xs ++ '\n' :: ys)).1 = (cutLines xs).1 ∧
      (StaysInComment (xs ++ '\n' :: ys) ↔ StaysInComment xs ∧ IsComments ys) := by
  have hend : cutLines ('\n' :: ys) = ([], lines ys) := cutLines_cons_break rfl nofun
  -- After a line break the first line of the rest is one of the lines that follow.
  have hrest {rest : List Char} (ih : (cutLines (rest ++ '\n' :: ys)).1 = (cutLines rest).1 ∧
      (StaysInComment (rest ++ '\n' :: ys) ↔ StaysInComment rest ∧ IsComments ys)) :
      IsComments (rest ++ '\n' :: ys) ↔ IsComments rest ∧ IsComments ys := by
    rw [isComments_iff, ih.1, ih.2, ← and_assoc, ← isComments_iff]
  induction xs using cutLines.induct with
  | case1 =>
    rw [List.nil_append, StaysInComment, hend]
    exact ⟨rfl, by simp [staysInComment_nil, IsComments]⟩
  | case2 rest ih => exact ⟨rfl, hrest ih⟩
  | case3 c rest hpair hbreak ih =>
    by_cases hlast : c = '\r' ∧ rest = []
    · -- the carriage return and the line feed are one line break
      obtain ⟨rfl, rfl⟩ := hlast
      exact ⟨rfl, by simp [StaysInComment, cutLines_return_lineFeed, cutLines, isLineBreak,
        IsCommentLine, IsComments]⟩
    · have hpair' : c = '\r' → rest.head? ≠ some '\n' := by
        rintro rfl hhead
        obtain ⟨tail, rfl⟩ := List.head?_eq_some_iff.1 hhead
        exact hpair tail rfl rfl
      have hpair'' : c = '\r' → (rest ++ '\n' :: ys).head? ≠ some '\n' := by
        intro hc
        cases rest with
        | nil => exact absurd ⟨hc, rfl⟩ hlast
        | cons d tail => exact hpair' hc
      rw [List.cons_append, StaysInComment, StaysInComment, cutLines_cons_break hbreak hpair',
        cutLines_cons_break hbreak hpair'']
      exact ⟨rfl, hrest ih⟩
  | case4 c rest hpair hbreak ih =>
    rw [Bool.not_eq_true] at hbreak
    rw [List.cons_append, StaysInComment, StaysInComment, cutLines_cons_of_not hbreak,
      cutLines_cons_of_not hbreak]
    exact ⟨congrArg (c :: ·) ih.1, ih.2⟩

/-- With a line feed between two texts the lines are those of both. -/
theorem isComments_append_lineFeed (xs ys : List Char) :
    IsComments (xs ++ '\n' :: ys) ↔ IsComments xs ∧ IsComments ys := by
  obtain ⟨hfirst, hothers⟩ := cutLines_append_lineFeed xs ys
  rw [isComments_iff, hfirst, hothers, ← and_assoc, ← isComments_iff]

/-- With line feeds between texts the lines are those of all. -/
theorem isComments_intercalate (parts : List (List Char)) :
    IsComments (['\n'].intercalate parts) ↔ ∀ part ∈ parts, IsComments part := by
  induction parts with
  | nil => exact iff_of_true isComments_nil nofun
  | cons part parts ih =>
    cases parts with
    | nil => simp
    | cons next parts =>
      rw [List.intercalate_cons_cons, List.append_assoc, List.singleton_append,
        isComments_append_lineFeed, ih]
      exact List.forall_mem_cons.symm

/-- With a line feed after each text the lines are those of all, and a blank one. -/
theorem isComments_flatMap (parts : List (List Char)) :
    IsComments (parts.flatMap (· ++ ['\n'])) ↔ ∀ part ∈ parts, IsComments part := by
  induction parts with
  | nil => exact iff_of_true isComments_nil nofun
  | cons part parts ih =>
    rw [List.flatMap_cons, List.append_assoc, List.singleton_append, isComments_append_lineFeed,
      ih, List.forall_mem_cons]

end

end SchemaToSwift.Swift
