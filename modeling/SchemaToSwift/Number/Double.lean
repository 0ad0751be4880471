/-!
# Binary floating-point numbers

A `Double` is a number of the binary64 format, held exactly: a sign, a mantissa and a power of two.
`Double.ofRatio` rounds a fraction to the nearest such number, ties to the even mantissa, and
`Double.ofDecimal` reads a decimal numeral with it. Everything is exact arithmetic on integers.
-/

namespace SchemaToSwift

/-- A binary64 number. A finite one is `± mantissa * 2 ^ exponent` with a mantissa below `2 ^ 53`
and, unless the exponent is the least one, at least `2 ^ 52`. -/
inductive Double
  | finite (negative : Bool) (mantissa : Nat) (exponent : Int)
  | infinite (negative : Bool)
  | nan
deriving Repr, DecidableEq, Inhabited

namespace Double

/-- The exponent of the subnormal numbers. -/
def minExponent : Int := -1074

/-- The greatest exponent of a finite number. -/
def maxExponent : Int := 971

/-- The least mantissa of a number that is not subnormal, `2 ^ 52`. -/
def leastNormal : Nat := 4503599627370496

/-- The quotient rounded to the nearest integer, ties to the even one. -/
def roundDiv (num den : Nat) : Nat :=
  let q := num / den
  let r := num % den
  if 2 * r < den then q else if den < 2 * r then q + 1 else if q % 2 = 0 then q else q + 1

/-- The exponent of the greatest power of two that is at most `num / den`. -/
def floorLog2 (num den : Nat) : Int :=
  let k : Int := (num.log2 : Int) - den.log2
  if num * Nat.pow 2 (-k).toNat < den * Nat.pow 2 k.toNat then k - 1 else k

/-- The number nearest to `± num / den`. -/
def ofRatio (negative : Bool) (num den : Nat) : Double :=
  if num = 0 then .finite negative 0 minExponent
  else
    let e := max (floorLog2 num den - 52) minExponent
    let m := roundDiv (num * Nat.pow 2 (-e).toNat) (den * Nat.pow 2 e.toNat)
    let (m, e) := if m = 2 * leastNormal then (leastNormal, e + 1) else (m, e)
    if maxExponent < e then .infinite negative else .finite negative m e

/-- The number nearest to `± digits * 10 ^ scale`. Scales far outside the range of the format are
answered without computing the power. -/
def ofDecimal (negative : Bool) (digits : Nat) (scale : Int) : Double :=
  if digits = 0 then .finite negative 0 minExponent
  else if 400 < scale then .infinite negative
  else if scale + (digits.log2 + 1) / 3 + 1 < -400 then .finite negative 0 minExponent
  else ofRatio negative (digits * Nat.pow 10 scale.toNat) (Nat.pow 10 (-scale).toNat)

/-- The integer part, toward zero, of a finite number. -/
def truncate : Double → Option Int
  | .finite negative m e =>
    let n : Int := (m * Nat.pow 2 e.toNat / Nat.pow 2 (-e).toNat : Nat)
    some (if negative then -n else n)
  | _ => none

/-- The integer that a number is equal to, if there is one. -/
def toInt? : Double → Option Int
  | d@(.finite _ m e) => if m % Nat.pow 2 (-e).toNat = 0 then d.truncate else none
  | _ => none

/-- Whether the number is zero, of either sign. -/
def isZero : Double → Bool
  | .finite _ m _ => m == 0
  | _ => false

/-- The order of numbers; a NaN is neither below nor above anything. -/
def lt : Double → Double → Bool
  | .nan, _ | _, .nan => false
  | .infinite n, .infinite m => n && !m
  | .infinite n, .finite .. => n
  | .finite .., .infinite m => !m
  | .finite n a e, .finite m b f =>
    let g := min e f
    let x : Int := a * Nat.pow 2 (e - g).toNat
    let y : Int := b * Nat.pow 2 (f - g).toNat
    (if n then -x else x) < (if m then -y else y)

/-- The number nearest to an integer, infinite if that is too large. -/
def ofInt (n : Int) : Double := ofRatio (n < 0) n.natAbs 1

/-- The finite number nearest to an integer, used to compare it with numbers that are none. -/
def clamped (n : Int) : Double :=
  match ofInt n with
  | .infinite negative => .finite negative (2 * leastNormal - 1) maxExponent
  | d => d

/-- The sum of two numbers, rounded to the nearest one. A sum of zero is negative only if both
are. -/
def add : Double → Double → Double
  | .nan, _ | _, .nan => .nan
  | .infinite a, .infinite b => if a = b then .infinite a else .nan
  | .infinite a, .finite .. => .infinite a
  | .finite .., .infinite b => .infinite b
  | .finite s m e, .finite t n f =>
    let g := min e f
    let x : Int := m * Nat.pow 2 (e - g).toNat
    let y : Int := n * Nat.pow 2 (f - g).toNat
    let sum := (if s then -x else x) + (if t then -y else y)
    let negative := if sum = 0 then s && t else sum < 0
    ofRatio negative (sum.natAbs * Nat.pow 2 g.toNat) (Nat.pow 2 (-g).toNat)

end Double

end SchemaToSwift
