import PatternRefinement.Json.Value
import PatternRefinement.Text.Digits

/-!
# JSON numbers

## Main Definitions

* `Numeral` — the parts of a number as it was written
* `Numeral.read?` — the numeral that a text begins with
* `Numeral.value?` — the number that it denotes
* `Number.text` — the text of a number

## Design Notes

A numeral without fraction and exponent denotes an integer if 64 bits can hold it, and so does
every natural number below `2 ^ 64`; minus zero and everything else denotes a double. The
digits that enter a double are those of the longest beginning that stays below `2 ^ 64`: the
other digits of the whole part only raise the power of ten, and those of the fraction do not
count. The double is the significand times that power of ten, each step rounded, so it is not
always the double nearest to the numeral. A magnitude that is too great denotes nothing.
-/

namespace PatternRefinement.Json

/-- The parts of a number as it was written. -/
structure Numeral where
  negative : Bool
  /-- The digits before the point. -/
  whole : List Char
  /-- The digits behind the point; empty if there is none. -/
  fraction : List Char
  /-- The power of ten that is written behind the digits. -/
  exponent? : Option Int
  deriving Repr, DecidableEq

namespace Numeral

/-- The bound that a significand stays below. -/
def significandBound : Nat := Nat.pow 2 64

/-! ### Reading -/

/-- Reads the digits that a text begins with, at least one. -/
def digits? (text : List Char) : Option (List Char × List Char) :=
  let run := text.takeWhile Char.isDigit
  if run.isEmpty then none else some (run, text.dropWhile Char.isDigit)

/-- Reads the digits before the point: a zero alone or digits that do not begin with one. -/
def wholePart? (text : List Char) : Option (List Char × List Char) :=
  match digits? text with
  | some ('0' :: _ :: _, _) => none
  | found => found

/-- Reads a point and the digits behind it, if there is a point. -/
def fractionPart? : List Char → Option (List Char × List Char)
  | '.' :: rest => digits? rest
  | rest => some ([], rest)

/-- Reads an exponent, if there is one. -/
def exponentPart? : List Char → Option (Option Int × List Char)
  | [] => some (none, [])
  | mark :: rest =>
    if mark = 'e' ∨ mark = 'E' then
      match rest with
      | '-' :: rest =>
        (digits? rest).map fun (run, rest) => (some (-(Text.digitsValue run : Int)), rest)
      | '+' :: rest => (digits? rest).map fun (run, rest) => (some (Text.digitsValue run), rest)
      | rest => (digits? rest).map fun (run, rest) => (some (Text.digitsValue run), rest)
    else some (none, mark :: rest)

/-- Reads the parts behind the sign. -/
def readUnsigned? (negative : Bool) (text : List Char) : Option (Numeral × List Char) :=
  match wholePart? text with
  | none => none
  | some (whole, text) =>
    match fractionPart? text with
    | none => none
    | some (fraction, text) =>
      match exponentPart? text with
      | none => none
      | some (exponent?, text) => some (⟨negative, whole, fraction, exponent?⟩, text)

/-- Reads the numeral that a text begins with. -/
def read? : List Char → Option (Numeral × List Char)
  | '-' :: text => readUnsigned? true text
  | text => readUnsigned? false text

/-! ### The number denoted -/

/-- A significand and a power of ten while digits are added to it. -/
structure Accumulation where
  significand : Nat
  power : Int
  /-- Whether a digit has been refused for want of room. -/
  full : Bool
  deriving Repr, DecidableEq

/-- Adds a digit before the point; once one is refused, each only raises the power of ten. -/
def Accumulation.addWhole (sum : Accumulation) (digit : Char) : Accumulation :=
  let next := 10 * sum.significand + Text.digitValue digit
  if !sum.full && next < significandBound then { sum with significand := next }
  else { sum with power := sum.power + 1, full := true }

/-- Adds a digit behind the point; once one is refused, none counts. -/
def Accumulation.addFraction (sum : Accumulation) (digit : Char) : Accumulation :=
  let next := 10 * sum.significand + Text.digitValue digit
  if !sum.full && next < significandBound then
    { sum with significand := next, power := sum.power - 1 }
  else { sum with full := true }

/-- The double that a numeral denotes. -/
def double? (numeral : Numeral) : Option Binary64 :=
  let whole := numeral.whole.foldl Accumulation.addWhole ⟨0, 0, false⟩
  let sum := numeral.fraction.foldl Accumulation.addFraction { whole with full := false }
  ((Binary64.ofNat sum.significand).scale? (sum.power + numeral.exponent?.getD 0)).map
    fun magnitude => if numeral.negative then magnitude.neg else magnitude

/-- The number that a numeral denotes. -/
def value? (numeral : Numeral) : Option Number :=
  let magnitude := Text.digitsValue numeral.whole
  if numeral.fraction.isEmpty && numeral.exponent?.isNone then
    if numeral.negative then
      -- Minus zero is kept apart from zero, which only a double can do.
      if 0 < magnitude && magnitude ≤ Nat.pow 2 63 then some (.integer (-magnitude))
      else numeral.double?.map .double
    else if magnitude < significandBound then some (.integer magnitude)
    else numeral.double?.map .double
  else numeral.double?.map .double

end Numeral

end PatternRefinement.Json
