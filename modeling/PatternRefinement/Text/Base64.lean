/-!
# Bytes as letters

Three bytes are four digits of 64 values.

## Main Definitions

* `digit` — the character of a value
* `encode` — bytes in this form

## Design Notes

Bytes that are left over at the end are filled up with zeros, and each digit that holds nothing else
is an equals sign.
-/

namespace PatternRefinement.Text.Base64

/-- The character of a value below 64. -/
def digit (n : Nat) : Char :=
  if n < 26 then Char.ofNat ('A'.toNat + n)
  else if n < 52 then Char.ofNat ('a'.toNat + (n - 26))
  else if n < 62 then Char.ofNat ('0'.toNat + (n - 52))
  else if n = 62 then '+'
  else '/'

/-- The four digits of a number of 24 bits. -/
def digits (n : Nat) : List Char :=
  [digit (n / 64 / 64 / 64), digit (n / 64 / 64 % 64), digit (n / 64 % 64), digit (n % 64)]

/-- Bytes in this form. -/
def encode : List UInt8 → List Char
  | a :: b :: c :: rest => digits ((a.toNat * 256 + b.toNat) * 256 + c.toNat) ++ encode rest
  | [a, b] => (digits ((a.toNat * 256 + b.toNat) * 256)).take 3 ++ ['=']
  | [a] => (digits (a.toNat * 256 * 256)).take 2 ++ ['=', '=']
  | [] => []

end PatternRefinement.Text.Base64
