import SchemaToSwift.Proofs.Printer.Pieces

/-!
# Printing further in

Pieces that are printed some levels further in give the text that they give at their own levels,
with the margin of these levels in front of each line that is not blank (`scanAll_raise`,
`scan_eq_shift`). No piece may end with a carriage return for that, as the line feed after it would
come in another piece. What begins with a blank line is printed alike wherever it stands
(`Opening.scan_scanAll`).
-/

namespace SchemaToSwift.Printer

/-! ## Lines with a margin -/

/-- The lines of a text, each with its line feed; there are no other separators here. -/
def feedLines : List Char → List (List Char)
  | [] => []
  | c :: rest =>
    if c = '\n' then ['\n'] :: feedLines rest
    else match feedLines rest with
      | [] => [[c]]
      | line :: lines => (c :: line) :: lines

/-- A line with a margin in front of it, unless it is blank. -/
def shiftLine (margin line : List Char) : List Char :=
  if line = ['\n'] ∨ line = ['\r', '\n'] then line else margin ++ line

/-- A text with a margin in front of each line that is not blank. -/
def shift (margin cs : List Char) : List Char := (feedLines cs).flatMap (shiftLine margin)

section
variable {margin : List Char} {b : Bool}

/-- The lines of a text, put together, are the text. -/
theorem flatten_feedLines (cs : List Char) : (feedLines cs).flatten = cs := by
  induction cs with
  | nil => rfl
  | cons c rest ih =>
    rw [feedLines]
    split
    · next hc => rw [List.flatten_cons, ih, hc, List.singleton_append]
    · split
      · next hnil =>
        rw [hnil] at ih
        rw [← ih]
        rfl
      · next line lines hcons =>
        rw [hcons] at ih
        rw [← ih]
        rfl

/-- A text begins with a line feed if its first line is no more than that. -/
theorem feedLine_iff {cs line : List Char} {lines : List (List Char)}
    (h : feedLines cs = line :: lines) : line = ['\n'] ↔ cs.head? = some '\n' := by
  cases cs with
  | nil => cases h
  | cons c rest =>
    rw [feedLines] at h
    split at h
    · next hc =>
      obtain ⟨rfl, -⟩ := List.cons.inj h
      simp [hc]
    · next hc =>
      split at h <;> obtain ⟨rfl, -⟩ := List.cons.inj h <;> simp [hc]

/-- A line that does not begin with a line feed is blank only if it begins with a carriage return in
front of one. -/
theorem opensLine_cons {c : Char} (hc : c ≠ '\n') (rest : List Char) :
    opensLine (c :: rest) = true ↔ ¬ (c = '\r' ∧ rest.head? = some '\n') := by
  have hfeed : ('\n' == c) = false := beq_eq_false_iff_ne.2 hc.symm
  cases rest with
  | nil => simp [opensLine, List.isPrefixOf, hfeed]
  | cons d rest =>
    simp [opensLine, List.isPrefixOf, hfeed, @eq_comm Char c, @eq_comm Char d, imp_iff_not_or]

/-- Of lines the text of which goes on those are blank that begin none. -/
theorem shiftLine_cons {c : Char} {rest line : List Char} (hc : c ≠ '\n')
    (hline : line = ['\n'] ↔ rest.head? = some '\n') :
    shiftLine margin (c :: line) =
      (if opensLine (c :: rest) then margin else []) ++ c :: line := by
  have hblank : (c :: line = ['\n'] ∨ c :: line = ['\r', '\n']) ↔
      ¬ opensLine (c :: rest) = true := by
    simp [opensLine_cons hc, hline, hc]
  rw [shiftLine]
  by_cases hopens : opensLine (c :: rest) = true
  · rw [if_neg fun h => hblank.1 h hopens, if_pos hopens]
  · rw [if_pos (hblank.2 hopens), if_neg hopens, List.nil_append]

/-- Scanning puts the margin in front of the lines: of the first one only if it starts there. -/
theorem scan_eq_lines (margin cs : List Char) (b : Bool) :
    scan margin b cs = match feedLines cs with
      | [] => []
      | line :: lines =>
        (if b then shiftLine margin line else line) ++ lines.flatMap (shiftLine margin) := by
  induction cs generalizing b with
  | nil => rfl
  | cons c rest ih =>
    rw [scan, ih, feedLines]
    by_cases hc : c = '\n'
    · subst hc
      rw [if_pos rfl]
      cases feedLines rest <;> cases b <;> rfl
    · rw [if_neg hc, beq_eq_false_iff_ne.2 hc]
      cases hlines : feedLines rest with
      | nil =>
        obtain rfl : rest = [] := by
          rw [← flatten_feedLines rest, hlines]
          rfl
        have hblank : ([] : List Char) = ['\n'] ↔ ([] : List Char).head? = some '\n' := by simp
        simp only [shiftLine_cons hc hblank]
        cases b <;> simp
      | cons line lines =>
        simp only [shiftLine_cons hc (feedLine_iff hlines)]
        cases b <;> simp

/-- A text that begins where a line starts is scanned line by line. -/
theorem scan_eq_shift (margin cs : List Char) : scan margin true cs = shift margin cs := by
  rw [scan_eq_lines, shift]
  cases feedLines cs <;> rfl

end

/-! ## Raised pieces -/

/-- The piece as many levels further in. -/
def Piece.raise (n : Nat) (x : Piece) : Piece := ⟨n + x.level, x.text⟩

/-- Pieces as many levels further in. -/
def raise (n : Nat) (xs : List Piece) : List Piece := xs.map (.raise n)

/-- No piece ends with a carriage return. -/
def Uncut (xs : List Piece) : Prop := ∀ x ∈ xs, x.text.toList.getLast? ≠ some '\r'

/-- The indentation of two levels together is that of both. -/
theorem indentation_add (unit : String) (n m : Nat) :
    indentation unit (n + m) = indentation unit n ++ indentation unit m := by
  rw [indentation, List.replicate_add, String.join_append]
  rfl

/-- No indentation has a line feed if its unit has none. -/
theorem newline_not_mem_indentation {unit : String} (h : '\n' ∉ unit.toList) (n : Nat) :
    '\n' ∉ (indentation unit n).toList := by
  rw [indentation, String.toList_join]
  simp [h]

theorem raise_append (n : Nat) (xs ys : List Piece) :
    raise n (xs ++ ys) = raise n xs ++ raise n ys := List.map_append

theorem raise_zero (xs : List Piece) : raise 0 xs = xs := by
  have hid : Piece.raise 0 = id := funext fun x => by simp [Piece.raise]
  rw [raise, hid, List.map_id]

/-- Going further in twice is going in by both. -/
theorem raise_raise (n m : Nat) (xs : List Piece) :
    raise n (raise m xs) = raise (n + m) xs := by
  simp [raise, Piece.raise, Function.comp_def, Nat.add_assoc]

/-- No piece of either list ends with a carriage return. -/
theorem Uncut.append {xs ys : List Piece} (hx : Uncut xs) (hy : Uncut ys) : Uncut (xs ++ ys) :=
  List.forall_mem_append.2 ⟨hx, hy⟩

/-- Further in, the pieces have the same texts. -/
theorem Uncut.raise {xs : List Piece} (h : Uncut xs) (n : Nat) : Uncut (Printer.raise n xs) := by
  simpa [Uncut, Printer.raise, Piece.raise] using h

/-- A text that does not end with a carriage return is not cut inside the end of a blank line. -/
theorem not_cutsBlankLine {xs : List Char} (h : xs.getLast? ≠ some '\r') (b : Bool)
    (ys : List Char) : ¬ CutsBlankLine b xs ys := by
  rintro ⟨line, rfl, -, -⟩
  exact h List.getLast?_concat

/-- A margin is never the last thing in a text. -/
theorem getLast?_scan (margin : List Char) (b : Bool) (cs : List Char) :
    (scan margin b cs).getLast? = cs.getLast? := by
  induction cs generalizing b with
  | nil => rfl
  | cons c rest ih => rw [scan, List.getLast?_append, List.getLast?_cons, ih, List.getLast?_cons,
      Option.some_or]

/-- Raised pieces give their text with the margin of the levels by which they are raised. -/
theorem scanAll_raise {unit : String} (hunit : '\n' ∉ unit.toList) (n : Nat) (b : Bool)
    {xs : List Piece} (h : Uncut xs) :
    scanAll unit b (raise n xs) =
      scan (indentation unit n).toList b (scanAll unit b xs) := by
  induction xs generalizing b with
  | nil => rfl
  | cons x rest ih =>
    obtain ⟨hx, hrest⟩ := List.forall_mem_cons.1 h
    rw [scanAll, scan_append, startsAfter_scan, scan_scan (newline_not_mem_indentation hunit _),
      ← ih _ hrest, ← String.toList_append, ← indentation_add]
    · rfl
    · exact not_cutsBlankLine (by rwa [getLast?_scan]) b _

/-! ## Pieces after a blank line -/

/-- The pieces of a blank line. -/
def blankLine : List Piece := [⟨0, ""⟩, ⟨0, "\n"⟩]

/-- Pieces begin with a blank line, if there are any. -/
def Opening (xs : List Piece) : Prop := xs = [] ∨ blankLine <+: xs

/-- A blank line is a line feed, whatever stands before it, and a line starts after it. -/
theorem scanAll_blankLine (unit : String) (b : Bool) (xs : List Piece) :
    scanAll unit b (blankLine ++ xs) = '\n' :: scanAll unit true xs := by
  cases b <;> rfl

/-- Pieces after a blank line are scanned alike in the middle of a line and at the start of one. -/
theorem Opening.scan_scanAll {unit : String} {xs : List Piece} (h : Opening xs)
    (margin : List Char) (b : Bool) :
    scan margin b (scanAll unit b xs) = scan margin true (scanAll unit true xs) := by
  obtain rfl | ⟨rest, rfl⟩ := h
  · rfl
  · rw [scanAll_blankLine, scanAll_blankLine]
    cases b <;> rfl

end SchemaToSwift.Printer
