/-!
# Percent escapes

An escape is a percent sign and two hexadecimal digits, which stand for one byte.

## Main Definitions

* `DecodeFailure` — why escaped bytes denote no text
* `brokenEscape?` — where the first percent sign stands that begins no escape
* `unescape` — the bytes that escaped bytes denote
* `decode` — the text that escaped text denotes
* `encode` — a text with the characters that a place does not admit escaped

## Design Notes

Offsets count bytes. A plus sign is no escape of a blank and stays what it is.
-/

namespace PatternRefinement.Text.Percent

/-- Why escaped bytes denote no text. -/
inductive DecodeFailure where
  /-- The percent sign at this byte is not followed by two hexadecimal digits. -/
  | malformedEscape (offset : Nat)
  /-- The bytes are not well-formed UTF-8 once every escape is replaced. -/
  | notText
  deriving Repr, DecidableEq

/-- The value of a hexadecimal digit in ASCII, of either letter case. -/
def hexValue? (byte : UInt8) : Option UInt8 :=
  if 0x30 ≤ byte && byte ≤ 0x39 then some (byte - 0x30)
  else if 0x41 ≤ byte && byte ≤ 0x46 then some (byte - 0x41 + 10)
  else if 0x61 ≤ byte && byte ≤ 0x66 then some (byte - 0x61 + 10)
  else none

/-- The percent sign. -/
def sign : UInt8 := 0x25

/-- The byte that the two digits after a percent sign denote. -/
def escaped? (high low : UInt8) : Option UInt8 :=
  match hexValue? high, hexValue? low with
  | some h, some l => some (16 * h + l)
  | _, _ => none

/-- The offset of the first percent sign that begins no escape, counted from `offset`. -/
def brokenEscape? (offset : Nat) : List UInt8 → Option Nat
  | [] => none
  | byte :: rest =>
    if byte = sign then
      match rest with
      | high :: low :: rest =>
        if (escaped? high low).isSome then brokenEscape? (offset + 3) rest else some offset
      | _ => some offset
    else brokenEscape? (offset + 1) rest

/-- Replaces every escape by the byte it denotes; a percent sign that begins no escape stays,
as all other bytes do. -/
def unescape : List UInt8 → List UInt8
  | [] => []
  | byte :: rest =>
    if byte = sign then
      match rest with
      | high :: low :: rest =>
        match escaped? high low with
        | some value => value :: unescape rest
        | none => byte :: unescape (high :: low :: rest)
      | rest => byte :: unescape rest
    else byte :: unescape rest

/-- The text that escaped text denotes. -/
def decode (text : String) : Except DecodeFailure String :=
  let bytes := text.toUTF8.data.toList
  match brokenEscape? 0 bytes with
  | some offset => .error (.malformedEscape offset)
  | none =>
    match String.fromUTF8? ((unescape bytes).toByteArray) with
    | some decoded => .ok decoded
    | none => .error .notText

/-- An upper-case hexadecimal digit. -/
def hexDigit (n : Nat) : Char :=
  (Nat.digitChar n).toUpper

/-- The escape of a byte. -/
def escape (byte : UInt8) : List Char :=
  ['%', hexDigit (byte.toNat / 16), hexDigit (byte.toNat % 16)]

/-- A text with the characters that a place does not admit escaped, byte by byte. A character
outside of ASCII is never admitted. -/
def encode (admits : Char → Bool) (text : List Char) : List Char :=
  text.flatMap fun c =>
    if c.toNat < 0x80 && admits c then [c] else (String.utf8EncodeChar c).flatMap escape

end PatternRefinement.Text.Percent
