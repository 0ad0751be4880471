import SchemaToSwift.Number.Double

/-!
# Shortest decimals

The text of a floating-point number has the fewest significant digits that read back as the same
number. `Double.shortest` finds them on the decimal grids of one digit, two digits and so on: the
first grid that has a point in the interval of reals rounding to the number wins, and of its points
the nearest one. Points from `10 ^ -4` up to `10 ^ 16` are written positionally.
-/

namespace SchemaToSwift.Double

/-- The numbers of `scale`: a grid point `d * 10 ^ unit` is compared with `x * 2 ^ (exponent - 2)`
by comparing `d * point` with `x * line`. -/
structure Scale where
  point : Nat
  line : Nat

/-- The scale that compares decimal grid points with quarters of a last binary place. -/
def scale (exponent unit : Int) : Scale where
  point := Nat.pow 10 unit.toNat * Nat.pow 2 (2 - exponent).toNat
  line := Nat.pow 10 (-unit).toNat * Nat.pow 2 (exponent - 2).toNat

/-- The exponent of the greatest power of ten that is at most `mantissa * 2 ^ exponent`. -/
def floorLog10 (mantissa : Nat) (exponent : Int) : Int :=
  let guess := ((mantissa.log2 + exponent) * 30103).fdiv 100000
  let reaches (j : Int) : Bool :=
    let s := scale exponent j
    s.point ≤ 4 * mantissa * s.line
  if reaches (guess + 1) then guess + 1 else if reaches guess then guess else guess - 1

/-- The grid point of `count` significant digits that reads back as the number and is nearest to
it, with its unit. The interval that reads back ends half a place above the number and half a
place, or a quarter at a power of two, below it. -/
def onGrid? (mantissa : Nat) (exponent top : Int) (count : Nat) : Option (Nat × Int) :=
  let unit := top - count + 1
  let s := scale exponent unit
  let low := 4 * mantissa - (if mantissa = leastNormal ∧ minExponent < exponent then 1 else 2)
  let high := 4 * mantissa + 2
  let inside (d : Nat) : Bool :=
    if mantissa % 2 = 0 then low * s.line ≤ d * s.point && d * s.point ≤ high * s.line
    else low * s.line < d * s.point && d * s.point < high * s.line
  let d := 4 * mantissa * s.line / s.point
  let below := 4 * mantissa * s.line - d * s.point
  let above := (d + 1) * s.point - 4 * mantissa * s.line
  match inside d, inside (d + 1) with
  | true, true =>
    some (if below < above ∨ (below = above ∧ d % 2 = 0) then d else d + 1, unit)
  | true, false => some (d, unit)
  | false, true => some (d + 1, unit)
  | false, false => none

/-- The digits and the decimal exponent of the shortest decimal that reads back as the number. -/
def shortest (mantissa : Nat) (exponent : Int) : Nat × Int :=
  if mantissa = 0 then (0, 0)
  else
    let top := floorLog10 mantissa exponent
    ((List.range 17).findSome? fun k => onGrid? mantissa exponent top (k + 1)).getD (0, 0)

/-- The text of a decimal: positional from `10 ^ -4` up to `10 ^ 16`, with an exponent of at least
two digits outside. -/
def decimalText (digits : Nat) (unit : Int) : String :=
  let ds := (Nat.toDigits 10 digits).reverse.dropWhile (· == '0') |>.reverse
  let all := Nat.toDigits 10 digits
  let place : Int := all.length + unit
  let zeros (n : Int) : List Char := List.replicate n.toNat '0'
  if -4 < place ∧ place ≤ 16 then
    if place ≤ 0 then String.ofList ('0' :: '.' :: zeros (-place) ++ ds)
    else if (ds.length : Int) ≤ place then
      String.ofList (ds ++ zeros (place - ds.length) ++ ['.', '0'])
    else String.ofList (ds.take place.toNat ++ '.' :: ds.drop place.toNat)
  else
    let e := place - 1
    let mantissa := match ds with
      | [] => ['0']
      | [d] => [d]
      | d :: rest => d :: '.' :: rest
    let size := Nat.toDigits 10 e.natAbs
    String.ofList (mantissa ++ 'e' :: (if e < 0 then '-' else '+') ::
      (zeros (2 - size.length) ++ size))

/-- The text of a floating-point number. -/
def text : Double → String
  | .nan => "nan"
  | .infinite negative => if negative then "-inf" else "inf"
  | .finite negative m e =>
    let body :=
      if m = 0 then "0.0"
      else
        let (digits, unit) := shortest m e
        decimalText digits unit
    if negative then "-" ++ body else body

end SchemaToSwift.Double
