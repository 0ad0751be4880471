/-!
# Code points of a text

A string of a JSON document may hold half of a surrogate pair on its own, which no character is. A
text writes such a half as two characters, a mark and a stand-in for the half, and the mark itself
as two marks. `points` takes a text apart into the code points that it stands for, and
`points_flatMap_chars` says that nothing is lost by writing them. What depends on single code points
goes by `points`: the order of texts, their elements, their quoted form and their bytes.
-/

namespace SchemaToSwift.Text

/-- A code point: a character, or half of a surrogate pair, by its offset from the first one. -/
inductive Point
  | char (c : Char)
  | half (offset : Fin 2048)
deriving Repr, DecidableEq

/-- The first half of all. -/
def firstHalf : Nat := 0xd800

/-- The character that stands before every half, and before itself. -/
def mark : Char := Char.ofNat 0x10ffff

/-- The first of the characters that stand for halves after a mark. -/
def firstStandIn : Nat := 0x10f000

/-- The half that a character stands for after a mark. -/
def half? (c : Char) : Option (Fin 2048) :=
  if h : firstStandIn ≤ c.toNat ∧ c.toNat < firstStandIn + 2048 then
    some ⟨c.toNat - firstStandIn, by omega⟩
  else none

namespace Point

/-- The number of a code point. -/
def code : Point → Nat
  | char c => c.toNat
  | half offset => firstHalf + offset

/-- The characters that a code point is written with. -/
def chars : Point → List Char
  | char c => if c = mark then [mark, mark] else [c]
  | half offset => [mark, Char.ofNat (firstStandIn + offset)]

/-- Whether a code point is half of a surrogate pair. -/
def isHalf : Point → Bool
  | char _ => false
  | half _ => true

/-- The character that a code point is. -/
def char? : Point → Option Char
  | char c => some c
  | half _ => none

/-- The code point of a UTF-16 code unit. -/
def ofUnit (unit : Nat) : Point :=
  if h : firstHalf ≤ unit ∧ unit < firstHalf + 2048 then half ⟨unit - firstHalf, by omega⟩
  else char (Char.ofNat unit)

end Point

/-- The code points of a text. -/
def points : List Char → List Point
  | [] => []
  | [c] => [.char c]
  | c :: d :: rest =>
    if c = mark then
      if d = mark then .char mark :: points rest
      else match half? d with
        | some offset => .half offset :: points rest
        | none => .char mark :: points (d :: rest)
    else .char c :: points (d :: rest)

/-- The stand-in for a half is read as that half. -/
theorem half?_standIn (offset : Fin 2048) :
    half? (Char.ofNat (firstStandIn + offset)) = some offset := by
  have valid : (firstStandIn + offset.val).isValidChar := by
    simp only [Nat.isValidChar, firstStandIn]
    omega
  have code : (Char.ofNat (firstStandIn + offset)).toNat = firstStandIn + offset := by
    rw [Char.ofNat, dif_pos valid]
    rfl
  have := offset.isLt
  simp [half?, code]

/-- No stand-in is the mark. -/
theorem standIn_ne_mark (offset : Fin 2048) : Char.ofNat (firstStandIn + offset) ≠ mark := by
  intro h
  have none_mark : half? mark = none := by decide
  rw [← h, half?_standIn] at none_mark
  exact absurd none_mark (by simp)

theorem points_cons_of_ne {c : Char} (h : c ≠ mark) (rest : List Char) :
    points (c :: rest) = .char c :: points rest := by
  cases rest with
  | nil => rfl
  | cons d rest => simp [points, h]

/-- What follows the writing of a code point is taken apart on its own. -/
theorem points_chars_append (p : Point) (rest : List Char) :
    points (p.chars ++ rest) = p :: points rest := by
  cases p with
  | char c =>
    by_cases h : c = mark
    · subst h
      simp [Point.chars, points]
    · simp [Point.chars, h, points_cons_of_ne h]
  | half offset =>
    simp [Point.chars, points, standIn_ne_mark, half?_standIn]

/-- Code points are found again in the characters that they are written with. -/
theorem points_flatMap_chars (ps : List Point) : points (ps.flatMap Point.chars) = ps := by
  induction ps with
  | nil => rfl
  | cons p ps ih => rw [List.flatMap_cons, points_chars_append, ih]

/-- The text of code points. -/
def ofPoints (ps : List Point) : String := String.ofList (ps.flatMap Point.chars)

/-- The text of a string of characters. -/
def ofCharacters (s : String) : String := ofPoints (s.toList.map Point.char)

/-- The characters of a text, unless it holds a half. -/
def characters? (s : String) : Option String :=
  ((points s.toList).mapM Point.char?).map String.ofList

/-- Whether a text holds a half. -/
def hasHalf (s : String) : Bool := (points s.toList).any (·.isHalf)

/-- The numbers of the code points of a text. -/
def codes (s : String) : List Nat := (points s.toList).map (·.code)

/-- The order of texts by their code points. -/
def before (a b : String) : Bool := codes a < codes b

/-- Whether a list of code points occurs in another. -/
def occursIn (part : List Point) : List Point → Bool
  | [] => part.isEmpty
  | p :: rest => part.isPrefixOf (p :: rest) || occursIn part rest

/-- Whether a text occurs in another. -/
def contains (whole part : String) : Bool := occursIn (points part.toList) (points whole.toList)

end SchemaToSwift.Text
