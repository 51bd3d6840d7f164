import PatternRefinement.WebAddress.Basic
import PatternRefinement.WebAddress.InternationalName
import PatternRefinement.Text.Percent

/-!
# Reading hosts

## Main Definitions

* `readIpv4` — up to four numbers with points between them, in three radices
* `readIpv6` — eight numbers of 16 bits, one run of zeros left out
* `Host.read` — the host of a scheme that always has one
* `Host.readPlain` — the host of any other scheme

## Design Notes

A name whose last label is a number is an IPv4 address or nothing. Names are compared without
letter case, so they are kept in lower case; hosts of other schemes are kept as they are
written.
-/

namespace PatternRefinement

/-! ### Numbers with points between them -/

/-- The value of a digit in a radix of at most sixteen. -/
def digitIn? (radix : Nat) (c : Char) : Option Nat :=
  let value :=
    if c.isDigit then c.toNat - '0'.toNat
    else if 'a' ≤ c && c ≤ 'f' then c.toNat - 'a'.toNat + 10
    else if 'A' ≤ c && c ≤ 'F' then c.toNat - 'A'.toNat + 10
    else radix
  if value < radix then some value else none

/-- The number that digits of a radix denote; no digits denote zero. -/
def numberIn? (radix : Nat) (digits : List Char) : Option Nat :=
  digits.foldl (fun sum c => sum.bind fun n => (digitIn? radix c).map (radix * n + ·)) (some 0)

/-- A number in hexadecimal behind `0x`, in octal behind `0`, and in decimal otherwise. -/
def ipv4Number? : List Char → Option Nat
  | [] => none
  | '0' :: 'x' :: digits => numberIn? 16 digits
  | '0' :: 'X' :: digits => numberIn? 16 digits
  | '0' :: digit :: digits => numberIn? 8 (digit :: digits)
  | digits => numberIn? 10 digits

/-- The labels of a name, without the empty one behind a final point. -/
def nameLabels (name : List Char) : List (List Char) :=
  let labels := name.splitOn '.'
  if labels.getLast? = some [] then labels.dropLast else labels

/-- Whether the last label of a name is a number. -/
def endsInNumber (name : List Char) : Bool :=
  match (nameLabels name).getLast? with
  | some label => Text.isDigits label || (ipv4Number? label).isSome
  | none => false

/-- Reads up to four numbers: all but the last one are bytes, and the last one fills the bytes
that are left. -/
def readIpv4 (name : List Char) : Except AddressError Host :=
  let labels := nameLabels name
  match labels.mapM ipv4Number? with
  | none => .error .ipv4
  | some numbers =>
    match numbers.getLast? with
    | none => .error .ipv4
    | some last =>
      let bytes := numbers.dropLast
      if 4 < labels.length || bytes.any (255 < ·) || Nat.pow 2 (8 * (4 - bytes.length)) ≤ last then
        .error .ipv4
      else
        .ok (.ipv4 (bytes.zipIdx.foldl
          (fun n (byte, place) => n + byte * Nat.pow 2 (8 * (3 - place))) last))

/-! ### Eight numbers with colons between them -/

/-- One to four hexadecimal digits. -/
def ipv6Piece? (digits : List Char) : Option Nat :=
  if digits.isEmpty || 4 < digits.length then none else numberIn? 16 digits

/-- A byte in decimal, without a zero before other digits. -/
def plainByte? : List Char → Option Nat
  | [] => none
  | ['0'] => some 0
  | '0' :: _ => none
  | digits => (numberIn? 10 digits).filter (· ≤ 255)

/-- Two numbers of 16 bits written as four bytes with points between them. -/
def embeddedIpv4? (text : List Char) : Option (List Nat) :=
  match (text.splitOn '.').mapM plainByte? with
  | some [a, b, c, d] => some [256 * a + b, 256 * c + d]
  | _ => none

/-- The numbers between colons; four bytes may stand for the last two if `lastMayBeBytes`. -/
def ipv6Run? (lastMayBeBytes : Bool) (text : List Char) : Option (List Nat) :=
  let parts := text.splitOn ':'
  let last := parts.getLast?.getD []
  let tail := if lastMayBeBytes && last.contains '.' then embeddedIpv4? last
    else (ipv6Piece? last).map ([·])
  match parts.dropLast.mapM ipv6Piece?, tail with
  | some pieces, some tail => some (pieces ++ tail)
  | _, _ => none

/-- The texts before and behind the first pair of colons. -/
def splitAtGap? : List Char → Option (List Char × List Char)
  | ':' :: ':' :: rest => some ([], rest)
  | c :: rest => (splitAtGap? rest).map fun (before, behind) => (c :: before, behind)
  | [] => none

/-- Reads eight numbers of 16 bits; a pair of colons stands for the zeros that are missing, at
least one. -/
def readIpv6 (text : List Char) : Except AddressError Host :=
  let pieces? :=
    match splitAtGap? text with
    | none => (ipv6Run? true text).filter (·.length = 8)
    | some (before, behind) =>
      let before? := if before.isEmpty then some [] else ipv6Run? false before
      let behind? := if behind.isEmpty then some [] else ipv6Run? true behind
      match before?, behind? with
      | some before, some behind =>
        let given := before.length + behind.length
        if given ≤ 7 then some (before ++ List.replicate (8 - given) 0 ++ behind) else none
      | _, _ => none
  match pieces? with
  | some pieces => .ok (.ipv6 pieces)
  | none => .error .ipv6

/-- Reads eight numbers in brackets, from behind the opening one. -/
def readBracketed (text : List Char) : Except AddressError Host :=
  if text.getLast? = some ']' then readIpv6 text.dropLast else .error .ipv6

namespace Host

/-- Reads the host of a scheme that always has one: a name whose escapes are replaced and whose
letters are lower case, or a numeric address. -/
def read (text : List Char) : Except AddressError Host :=
  match text with
  | '[' :: rest => readBracketed rest
  | _ =>
    let bytes := Text.Percent.unescape (String.ofList text).toUTF8.data.toList
    match (String.fromUTF8? bytes.toByteArray).bind fun given => asciiName? given.toList with
    | none => .error .internationalName
    | some [] => .error .emptyHost
    | some ascii =>
      if endsInNumber ascii then readIpv4 ascii else .ok (.name (String.ofList ascii))

/-- Whether a host that is kept as it is written may not hold a character. -/
def isForbidden (c : Char) : Bool :=
  c == '\x00' || c == '\t' || c == '\n' || c == '\r' || " #/:<>?@[\\]^|".toList.contains c

/-- Whether a character stands for itself in a host that is kept as it is written. -/
def isPlain (c : Char) : Bool :=
  0x20 ≤ c.toNat && c.toNat < 0x7F

/-- Reads the host of a scheme that may have none. -/
def readPlain (text : List Char) : Except AddressError Host :=
  match text with
  | '[' :: rest => readBracketed rest
  | _ =>
    if text.any isForbidden then .error .domainCharacter
    else .ok (.name (String.ofList (Text.Percent.encode isPlain text)))

end Host

end PatternRefinement
