import SchemaToSwift.Text.DigitTable

/-!
# Digits

`decimalValue?` is the value of a decimal digit of any script, and `isDigit` the wider class that
also holds superscript and circled digits.
-/

namespace SchemaToSwift.Text

/-- The value of a decimal digit. -/
def decimalValue? (c : Char) : Option Nat :=
  if c.toNat < 128 then
    if c.isDigit then some (c.toNat - 48) else none
  else
    (DigitTable.zeros.find? fun z => z ≤ c.toNat && c.toNat < z + 10).map (c.toNat - ·)

/-- A digit, with or without a value in a positional numeral. -/
def isDigit (c : Char) : Bool :=
  if c.toNat < 128 then c.isDigit else inRuns DigitTable.digitRuns c.toNat

end SchemaToSwift.Text
