/-!
# Blank characters

The characters that trimming removes: the separators, tab to carriage return, the four information
separators, the next-line control and the spaces of the other blocks.
-/

namespace SchemaToSwift.Text

/-- A blank character. -/
def isBlank (c : Char) : Bool :=
  let n := c.toNat
  (9 ≤ n && n ≤ 13) || (28 ≤ n && n ≤ 32) || n == 0x85 || n == 0xa0 || n == 0x1680 ||
    (0x2000 ≤ n && n ≤ 0x200a) || n == 0x2028 || n == 0x2029 || n == 0x202f || n == 0x205f ||
    n == 0x3000

/-- The list without characters of a class at either end. -/
def trimWhere (p : Char → Bool) (cs : List Char) : List Char :=
  ((cs.dropWhile p).reverse.dropWhile p).reverse

/-- The list without blank characters at either end. -/
def trimChars (cs : List Char) : List Char := trimWhere isBlank cs

/-- The text without blank characters at either end. -/
def trim (s : String) : String := String.ofList (trimChars s.toList)

end SchemaToSwift.Text
