/-!
# Decimal digits

## Main Definitions

* `digitsValue` — the number that a run of ASCII digits denotes
* `unsigned?` — a natural number with an optional plus sign
* `signed?` — an integer with an optional sign
* `decimal` — the digits of a natural number

## Design Notes

Only the ten ASCII digits count. A reader gives the mathematical number, of any size; the
bounds of a machine word are put on it by whoever needs them (`unsignedBelow?`,
`signedWithin?`).
-/

namespace PatternRefinement.Text

/-- The value of a decimal digit; every other character counts as its distance to `0`. -/
def digitValue (c : Char) : Nat :=
  c.toNat - '0'.toNat

/-- The number denoted by a run of digits, the most significant one first. -/
def digitsValue (digits : List Char) : Nat :=
  digits.foldl (fun n c => 10 * n + digitValue c) 0

/-- Whether a text is a non-empty run of ASCII digits. -/
def isDigits (text : List Char) : Bool :=
  !text.isEmpty && text.all Char.isDigit

/-- A text without the one plus sign that it may begin with. -/
def withoutPlus : List Char → List Char
  | '+' :: rest => rest
  | text => text

/-- Reads digits after an optional plus sign. -/
def unsigned? (text : List Char) : Option Nat :=
  let digits := withoutPlus text
  if isDigits digits then some (digitsValue digits) else none

/-- Reads an unsigned number that is smaller than `bound`. -/
def unsignedBelow? (bound : Nat) (text : List Char) : Option Nat :=
  (unsigned? text).filter (· < bound)

/-- Reads digits after an optional plus or minus sign. -/
def signed? : List Char → Option Int
  | '-' :: digits => if isDigits digits then some (-(digitsValue digits : Int)) else none
  | text => (unsigned? text).map Int.ofNat

/-- Reads a signed number that a two's complement word of `bits` bits can hold. -/
def signedWithin? (bits : Nat) (text : List Char) : Option Int :=
  (signed? text).filter fun n =>
    -(Nat.pow 2 (bits - 1) : Int) ≤ n && n < (Nat.pow 2 (bits - 1) : Int)

/-- The decimal digits of a natural number. -/
def decimal (n : Nat) : String :=
  String.ofList (Nat.toDigits 10 n)

end PatternRefinement.Text
