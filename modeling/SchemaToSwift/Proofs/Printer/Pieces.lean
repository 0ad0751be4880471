import SchemaToSwift.Proofs.Printer.Scan

/-!
# Printed pieces

A piece is a text with the level at which it is printed. A printer that writes pieces scans them one
after the other (`content_write`), whatever its own level is, and what it prints by lines or texts
are pieces at its own level (`printTexts_eq_write`, `printLines_eq_printTexts`).
-/

namespace SchemaToSwift.Printer

/-- A text, and the level at which it is printed. -/
structure Piece where
  level : Nat
  text : String
deriving DecidableEq, Repr

/-- The printer at another level. -/
def atLevel (p : Printer) (n : Nat) : Printer := { p with level := n }

/-- The printer with a piece added, at the level of the piece. -/
def put (p : Printer) (x : Piece) : Printer := ((p.atLevel x.level).add x.text).atLevel p.level

/-- The printer with pieces added, each at its own level. -/
def write (p : Printer) (xs : List Piece) : Printer := xs.foldl put p

/-- The texts of pieces, one after the other. -/
def chars (xs : List Piece) : List Char := xs.flatMap (·.text.toList)

/-- The texts of pieces with their margins, one after the other. -/
def scanAll (unit : String) (atLineStart : Bool) : List Piece → List Char
  | [] => []
  | x :: rest =>
    scan (indentation unit x.level).toList atLineStart x.text.toList ++
      scanAll unit (startsAfter atLineStart x.text.toList) rest

section
variable {p : Printer}

/-! ## One piece -/

@[simp] theorem level_atLevel (p : Printer) (n : Nat) : (p.atLevel n).level = n := rfl

/-- A printer is at its own level. -/
theorem atLevel_of_level {n : Nat} (h : p.level = n) : p.atLevel n = p := by
  subst h
  rfl

@[simp] theorem atLevel_atLevel (p : Printer) (n m : Nat) :
    (p.atLevel n).atLevel m = p.atLevel m := rfl

/-- A piece is added at its own level, whatever the level of the printer is. -/
theorem put_atLevel (p : Printer) (n : Nat) (x : Piece) :
    (p.atLevel n).put x = (p.put x).atLevel n := rfl

/-- A text is added at the level of the printer. -/
theorem add_eq_put (p : Printer) (text : String) : p.add text = p.put ⟨p.level, text⟩ := by
  rw [put, atLevel_of_level rfl, atLevel_of_level (scans_add p text).level]

theorem chars_cons (x : Piece) (xs : List Piece) : chars (x :: xs) = x.text.toList ++ chars xs :=
  rfl

/-- A piece is scanned with the margin of its level. -/
theorem scans_put (p : Printer) (x : Piece) :
    Scans (p.atLevel x.level) x.text.toList ((p.put x).atLevel x.level) := by
  have hadd := scans_add (p.atLevel x.level) x.text
  have hput : (p.put x).atLevel x.level = (p.atLevel x.level).add x.text :=
    atLevel_of_level hadd.level
  rwa [hput]

/-! ## All pieces -/

theorem write_cons (p : Printer) (x : Piece) (xs : List Piece) :
    p.write (x :: xs) = (p.put x).write xs := rfl

/-- Pieces are written one after the other. -/
theorem write_append (p : Printer) (xs ys : List Piece) :
    p.write (xs ++ ys) = (p.write xs).write ys := List.foldl_append

/-- Writing pieces does not move the level. -/
@[simp] theorem level_write (p : Printer) (xs : List Piece) : (p.write xs).level = p.level := by
  induction xs generalizing p with
  | nil => rfl
  | cons x rest ih => exact ih (p.put x)

/-- The level of the printer does not matter to pieces. -/
theorem write_atLevel (p : Printer) (n : Nat) (xs : List Piece) :
    (p.atLevel n).write xs = (p.write xs).atLevel n := by
  induction xs generalizing p with
  | nil => rfl
  | cons x rest ih => rw [write_cons, put_atLevel, ih, ← write_cons]

/-- Nor does it change the unit of the indentation. -/
theorem unit_write (p : Printer) (xs : List Piece) : (p.write xs).unit = p.unit := by
  induction xs generalizing p with
  | nil => rfl
  | cons x rest ih => exact (ih (p.put x)).trans (scans_put p x).unit

/-- Whether a line starts after pieces depends on their text alone. -/
theorem atLineStart_write (p : Printer) (xs : List Piece) :
    (p.write xs).atLineStart = startsAfter p.atLineStart (chars xs) := by
  induction xs generalizing p with
  | nil => rfl
  | cons x rest ih =>
    rw [write_cons, ih, chars_cons, startsAfter_append]
    exact congrArg (startsAfter · _) (scans_put p x).atLineStart

/-- A printer is empty if and only if it was and no text was written. -/
theorem isEmpty_write (p : Printer) (xs : List Piece) :
    (p.write xs).isEmpty = (p.isEmpty && (chars xs).isEmpty) := by
  induction xs generalizing p with
  | nil => simp [write, chars]
  | cons x rest ih =>
    have hput : (p.put x).isEmpty = (p.isEmpty && x.text.toList.isEmpty) := (scans_put p x).isEmpty
    rw [write_cons, ih, hput, chars_cons, Bool.and_assoc]
    cases x.text.toList <;> rfl

/-- Pieces are scanned one after the other. -/
theorem content_write (p : Printer) (xs : List Piece) :
    (p.write xs).content.toList = p.content.toList ++ scanAll p.unit p.atLineStart xs := by
  induction xs generalizing p with
  | nil => simp [write, scanAll]
  | cons x rest ih =>
    have hput : (p.put x).content.toList = p.content.toList ++
        scan (indentation p.unit x.level).toList p.atLineStart x.text.toList :=
      (scans_put p x).content
    have hstart : (p.put x).atLineStart = startsAfter p.atLineStart x.text.toList :=
      (scans_put p x).atLineStart
    have hunit : (p.put x).unit = p.unit := (scans_put p x).unit
    rw [write_cons, ih, hput, hstart, hunit, scanAll, List.append_assoc]

/-! ## Scanned pieces -/

/-- The text of pieces with their margins is that of the first ones, and that of the others from
where the first end. -/
theorem scanAll_append (unit : String) (b : Bool) (xs ys : List Piece) :
    scanAll unit b (xs ++ ys) =
      scanAll unit b xs ++ scanAll unit (startsAfter b (chars xs)) ys := by
  induction xs generalizing b with
  | nil => rfl
  | cons x rest ih =>
    rw [List.cons_append, scanAll, ih, scanAll, List.append_assoc, chars_cons,
      startsAfter_append]

/-- Margins end no line. -/
theorem startsAfter_scanAll (unit : String) (b b' : Bool) (xs : List Piece) :
    startsAfter b (scanAll unit b' xs) = startsAfter b (chars xs) := by
  induction xs generalizing b b' with
  | nil => rfl
  | cons x rest ih =>
    rw [scanAll, startsAfter_append, startsAfter_scan, ih, chars_cons,
      startsAfter_append]

/-- There are no margins where there are no texts. -/
theorem scanAll_eq_nil {unit : String} {b : Bool} {xs : List Piece} :
    scanAll unit b xs = [] ↔ chars xs = [] := by
  induction xs generalizing b with
  | nil => simp [scanAll, chars]
  | cons x rest ih =>
    rw [scanAll, List.append_eq_nil_iff, scan_eq_nil, ih, chars_cons,
      List.append_eq_nil_iff]

end

/-! ## Lines and texts -/

/-- The texts that lines are printed by: each with a line feed after it, and a blank line for no
lines. -/
def lineTexts (texts : List String) : List String :=
  (if texts.isEmpty then [""] else texts).flatMap fun text => [text, "\n"]

/-- Lines are printed as texts, a line feed after each. -/
theorem printLines_eq_printTexts (p : Printer) (texts : List String) :
    p.printLines texts = p.printTexts (lineTexts texts) := by
  rw [printLines, printTexts, lineTexts, List.foldl_flatMap]
  rfl

/-- Texts are pieces at the level of the printer. -/
theorem printTexts_eq_write (p : Printer) (texts : List String) :
    p.printTexts texts = p.write (texts.map (.mk p.level)) := by
  induction texts generalizing p with
  | nil => rfl
  | cons text rest ih =>
    have hcons : p.printTexts (text :: rest) = (p.add text).printTexts rest := rfl
    rw [hcons, ih, (scans_add p text).level, List.map_cons, write_cons, add_eq_put]

/-! ## Properties of pieces -/

/-- A property that pieces have if their parts have it. -/
structure Additive (P : List Piece → Prop) : Prop where
  nil : P []
  append : ∀ {xs ys : List Piece}, P xs → P ys → P (xs ++ ys)

/-- A property that lines have, and texts that end with one, also one after the other. -/
structure OfLines (P : List Piece → Prop) : Prop extends Additive P where
  lines : ∀ texts, P ((lineTexts texts).map (.mk 0))
  text : ∀ s : String, s.toList.getLast? = some '\n' → P [⟨0, s⟩]

end SchemaToSwift.Printer
