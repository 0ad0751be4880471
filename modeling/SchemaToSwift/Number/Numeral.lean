import SchemaToSwift.Text.Blank
import SchemaToSwift.Text.Digit

/-!
# Integer numerals

A numeral is an optional sign and decimal digits of any script, with single underscores allowed
between digits and blanks around the whole; the information separators do not count as blanks here.
Numerals of more than `maxDigits` digits are refused.
-/

namespace SchemaToSwift.Numeral

/-- The greatest number of digits that a numeral may have. -/
def maxDigits : Nat := 4300

/-- Whether an integer has more digits than a numeral may have. -/
def isTooLong (n : Int) : Bool := Nat.pow 10 maxDigits ≤ n.natAbs

/-- The values of the digits of a list of digits and single underscores between them. -/
def digits? : List Char → Option (List Nat)
  | [] => some []
  | [c] => (Text.decimalValue? c).map ([·])
  | c :: '_' :: d :: rest => do
    let v ← Text.decimalValue? c
    let vs ← digits? (d :: rest)
    return v :: vs
  | c :: rest => do
    let v ← Text.decimalValue? c
    let vs ← digits? rest
    return v :: vs

/-- The number that a list of digit values denotes. -/
def value (ds : List Nat) : Nat := ds.foldl (fun n d => 10 * n + d) 0

/-- The number that an unsigned numeral denotes. -/
def natural? (cs : List Char) : Option Nat := do
  let ds ← digits? cs
  if ds.isEmpty || maxDigits < ds.length then none else return value ds

/-- A blank that may stand around a numeral. -/
def isMargin (c : Char) : Bool := Text.isBlank c && !(28 ≤ c.toNat && c.toNat ≤ 31)

/-- The number that a numeral denotes. -/
def integer? (s : String) : Option Int :=
  match Text.trimWhere isMargin s.toList with
  | '+' :: rest => (natural? rest).map Int.ofNat
  | '-' :: rest => (natural? rest).map fun n => -Int.ofNat n
  | cs => (natural? cs).map Int.ofNat

end SchemaToSwift.Numeral
