import PatternRefinement.Number.Binary64
import PatternRefinement.Text.Digits

/-!
# The shortest decimal of a double

## Main Definitions

* `Decimal` — a natural number times a power of ten
* `Binary64.interval` — the reals that round to a double
* `Binary64.shortest` — the decimal with the fewest digits in that interval
* `DecimalLayout` — how a decimal is written
* `DecimalLayout.write` — its text

## Design Notes

For each number of digits the two decimals next to the double on that grid are tried; if any
decimal with so many digits lies in the interval, so does one of these two. Of two hits the
nearer one counts, and the even one if they are equally near. Seventeen digits always suffice.
-/

namespace PatternRefinement

/-- The number `digits * 10 ^ exponent`. -/
structure Decimal where
  digits : Nat
  exponent : Int
  deriving Repr, DecidableEq

namespace Decimal

/-- A decimal as a quotient of natural numbers. -/
def quotient (d : Decimal) : Nat × Nat :=
  if 0 ≤ d.exponent then (d.digits * Nat.pow 10 d.exponent.toNat, 1)
  else (d.digits, Nat.pow 10 (-d.exponent).toNat)

/-- Moves up to `fuel` zeros from the end of the digits into the exponent. -/
def dropZeros : Nat → Decimal → Decimal
  | 0, d => d
  | fuel + 1, d =>
    if d.digits % 10 = 0 then dropZeros fuel ⟨d.digits / 10, d.exponent + 1⟩ else d

/-- The same number without zeros at the end of its digits. -/
def normalised (d : Decimal) : Decimal :=
  if d.digits = 0 then d else dropZeros (Nat.toDigits 10 d.digits).length d

end Decimal

namespace Binary64

/-- The reals that round to a positive double: its lower and upper bound and the double itself
in units of `2 ^ (exponent - 2)`, and whether the bounds belong to them. -/
def interval (x : Binary64) : Nat × Nat × Nat × Bool :=
  let below := if x.significand = Nat.pow 2 52 && x.exponent != leastExponent then 1 else 2
  (4 * x.significand - below, 4 * x.significand, 4 * x.significand + 2, x.significand % 2 == 0)

/-- The power of ten of the leading digit of a positive quotient. -/
def leadingPower (numerator denominator : Nat) : Int :=
  if denominator ≤ numerator then
    (Nat.toDigits 10 (numerator / denominator)).length - 1
  else
    let digits := (Nat.toDigits 10 (denominator / numerator)).length
    if denominator ≤ numerator * Nat.pow 10 (digits - 1) then -((digits - 1 : Nat) : Int)
    else -digits

/-- The decimal with the given number of digits that lies nearest to a positive double, if one
rounds to it. -/
def withDigits? (x : Binary64) (count : Nat) : Option Decimal :=
  let (low, value, high, closed) := x.interval
  let unit := x.exponent - 2
  let (n, d) := shifted value 1 unit
  let power := leadingPower n d + 1 - count
  let (scaledN, scaledD) :=
    if 0 ≤ power then (n, d * Nat.pow 10 power.toNat) else (n * Nat.pow 10 (-power).toNat, d)
  let inside (candidate : Decimal) : Bool :=
    let (cn, cd) := candidate.quotient
    let (ln, ld) := shifted low 1 unit
    let (hn, hd) := shifted high 1 unit
    if closed then ln * cd ≤ cn * ld && cn * hd ≤ hn * cd
    else ln * cd < cn * ld && cn * hd < hn * cd
  let lower : Decimal := ⟨scaledN / scaledD, power⟩
  let upper : Decimal := ⟨scaledN / scaledD + 1, power⟩
  let twice := 2 * (scaledN % scaledD)
  match inside lower, inside upper with
  | false, false => none
  | true, false => some lower
  | false, true => some upper
  | true, true =>
    if twice < scaledD then some lower
    else if scaledD < twice then some upper
    else if lower.digits % 2 = 0 then some lower else some upper

/-- The decimal with the fewest digits that rounds to a double, its sign left out. -/
def shortest (x : Binary64) : Decimal :=
  if x.isZero then ⟨0, 0⟩
  else (((List.range 17).findSome? fun k => x.withDigits? (k + 1)).getD ⟨0, 0⟩).normalised

end Binary64

/-- How a decimal is written: positionally while the power of ten of its leading digit lies in
a range, and with an exponent otherwise. -/
structure DecimalLayout where
  /-- The least power of ten of a leading digit that is written positionally. -/
  leastPositional : Int
  /-- The greatest power of ten of a leading digit that is written positionally. -/
  greatestPositional : Int
  /-- What stands behind a whole number that is written positionally. -/
  wholeMark : String
  /-- What stands before an exponent. -/
  exponentMark : String
  /-- What stands before the digits of an exponent that is not negative. -/
  positiveMark : String

namespace DecimalLayout

/-- The digits of a decimal with the given layout. -/
def write (layout : DecimalLayout) (d : Decimal) : String :=
  let digits := Nat.toDigits 10 d.digits
  let power : Int := d.exponent + digits.length - 1
  if d.digits = 0 then "0" ++ layout.wholeMark
  else if layout.leastPositional ≤ power && power ≤ layout.greatestPositional then
    if 0 ≤ d.exponent then
      String.ofList (digits ++ List.replicate d.exponent.toNat '0') ++ layout.wholeMark
    else if 0 ≤ power then
      let whole := power.toNat + 1
      String.ofList (digits.take whole ++ '.' :: digits.drop whole)
    else "0." ++ String.ofList (List.replicate (-power - 1).toNat '0' ++ digits)
  else
    let tail := digits.drop 1
    let mantissa := digits.take 1 ++ (if tail.isEmpty then [] else '.' :: tail)
    let exponent := if 0 ≤ power then layout.positiveMark ++ Text.decimal power.toNat
      else "-" ++ Text.decimal (-power).toNat
    String.ofList mantissa ++ layout.exponentMark ++ exponent

end DecimalLayout

end PatternRefinement
