/-!
# Double-precision numbers

Finite binary floating-point numbers with 53 significant bits, in exact integer arithmetic.

## Main Definitions

* `Binary64` — a sign, a significand and a power of two
* `Binary64.nearest?` — the double nearest to a quotient of natural numbers
* `Binary64.scale?` — a double times or over a power of ten, rounded at each step

## Design Notes

A magnitude is `significand * 2 ^ exponent` with `significand < 2 ^ 53` and
`-1074 ≤ exponent`; it is normalised, so `2 ^ 52 ≤ significand` unless the exponent is the
least one. Zero keeps its sign. A quotient half-way between two doubles goes to the one with
the even significand.
-/

namespace PatternRefinement

/-- A finite double: the magnitude `significand * 2 ^ exponent` with a sign. -/
structure Binary64 where
  negative : Bool
  significand : Nat
  exponent : Int
  deriving Repr, DecidableEq

namespace Binary64

/-- The least power of two that a significand is multiplied by. -/
def leastExponent : Int := -1074

/-- The greatest power of two that a significand is multiplied by. -/
def greatestExponent : Int := 971

/-- Zero with a sign. -/
def zero (negative : Bool) : Binary64 := ⟨negative, 0, leastExponent⟩

/-- Whether a double is zero. -/
def isZero (x : Binary64) : Bool := x.significand == 0

/-- A quotient as one of natural numbers: `numerator * 2 ^ k / denominator`. -/
def shifted (numerator denominator : Nat) (k : Int) : Nat × Nat :=
  if 0 ≤ k then (numerator * Nat.pow 2 k.toNat, denominator)
  else (numerator, denominator * Nat.pow 2 (-k).toNat)

/-- The natural number nearest to a quotient, the even one of two at the same distance. -/
def roundQuotient (numerator denominator : Nat) : Nat :=
  let whole := numerator / denominator
  let twice := 2 * (numerator % denominator)
  if twice < denominator then whole
  else if denominator < twice then whole + 1
  else whole + whole % 2

/-- The exponent at which a positive quotient has 53 significant bits, or the least one. -/
def exponentOf (numerator denominator : Nat) : Int :=
  let guess : Int := (Nat.log2 numerator : Int) - Nat.log2 denominator - 52
  let (n, d) := shifted numerator denominator (-guess)
  max leastExponent (if n < Nat.pow 2 52 * d then guess - 1 else guess)

/-- The double nearest to `numerator / denominator` with a sign; none if its magnitude is too
great. -/
def nearest? (negative : Bool) (numerator denominator : Nat) : Option Binary64 :=
  if numerator = 0 then some (zero negative)
  else
    let exponent := exponentOf numerator denominator
    let (n, d) := shifted numerator denominator (-exponent)
    let rounded := roundQuotient n d
    -- Rounding up may need one bit more, and then the significand is a power of two.
    let (significand, exponent) :=
      if rounded = Nat.pow 2 53 then (Nat.pow 2 52, exponent + 1) else (rounded, exponent)
    if exponent ≤ greatestExponent then some ⟨negative, significand, exponent⟩ else none

/-- The magnitude of a double as a quotient of natural numbers. -/
def quotient (x : Binary64) : Nat × Nat :=
  shifted x.significand 1 x.exponent

/-- The double nearest to a natural number below `2 ^ 1024`. -/
def ofNat (n : Nat) : Binary64 :=
  (nearest? false n 1).getD (zero false)

/-- The double nearest to a power of ten. -/
def powerOfTen (k : Nat) : Binary64 :=
  ofNat (Nat.pow 10 k)

/-- The product of two doubles, rounded; none if it is too great. -/
def mul? (x y : Binary64) : Option Binary64 :=
  let (a, b) := x.quotient
  let (c, d) := y.quotient
  nearest? (x.negative != y.negative) (a * c) (b * d)

/-- The quotient of a double by a double other than zero, rounded; none if it is too great. -/
def div? (x y : Binary64) : Option Binary64 :=
  let (a, b) := x.quotient
  let (c, d) := y.quotient
  nearest? (x.negative != y.negative) (a * d) (b * c)

/-- The greatest power of ten that is a double. -/
def greatestPower : Nat := 308

/-- A double over the greatest power of ten that is a double. -/
def divGreatestPower? (x : Binary64) : Option Binary64 :=
  x.div? (powerOfTen greatestPower)

/-- A double over the greatest power of ten, up to `times` times; zero stays zero. -/
def divGreatestPowers? : (times : Nat) → Binary64 → Option Binary64
  | 0, x => some x
  | times + 1, x =>
    if x.isZero then some x else x.divGreatestPower?.bind (divGreatestPowers? times)

/-- A double times `10 ^ k`: one rounded product, or rounded quotients by powers of at most
`10 ^ 308` until the power is used up. A product that is too great is none; zero stays zero. -/
def scale? (x : Binary64) (k : Int) : Option Binary64 :=
  if 0 ≤ k then
    if k ≤ greatestPower then x.mul? (powerOfTen k.toNat)
    else if x.isZero then some x else none
  else
    let power := (-k).toNat
    let times := (power - 1) / greatestPower
    (x.divGreatestPowers? times).bind fun y => y.div? (powerOfTen (power - greatestPower * times))

/-- A double with its sign changed. -/
def neg (x : Binary64) : Binary64 := { x with negative := !x.negative }

end Binary64

end PatternRefinement
