/-!
# Text from bytes

## Main Definitions

* `Lead` — what the first byte of a character announces
* `takeCharacter` — the character that a sequence of bytes begins with, or how many bytes are
  broken
* `repaired` — the text of any bytes, every broken sequence replaced by `U+FFFD`

## Design Notes

Well-formed bytes are read by the core library (`String.fromUTF8?`). Everything here serves
bytes that are not well formed. A broken sequence is the longest beginning of a character
that the bytes could still have completed, or a single byte if there is none, and it becomes
one replacement character. So no byte is lost without a trace, and bytes that are not empty
never become the empty text.
-/

namespace PatternRefinement.Text

/-- What the first byte of a character announces: how many bytes follow it, and between which
bounds the first of them lies. Later ones lie between `0x80` and `0xBF`. -/
structure Lead where
  following : Nat
  low : UInt8
  high : UInt8
  deriving Repr, DecidableEq

/-- The announcement of a byte that starts a character of two to four bytes. The bounds on
the second byte keep out overlong forms, surrogates and numbers above `0x10FFFF`. -/
def Lead.of? (byte : UInt8) : Option Lead :=
  if 0xC2 ≤ byte && byte ≤ 0xDF then some ⟨1, 0x80, 0xBF⟩
  else if byte == 0xE0 then some ⟨2, 0xA0, 0xBF⟩
  else if byte == 0xED then some ⟨2, 0x80, 0x9F⟩
  else if 0xE1 ≤ byte && byte ≤ 0xEF then some ⟨2, 0x80, 0xBF⟩
  else if byte == 0xF0 then some ⟨3, 0x90, 0xBF⟩
  else if 0xF1 ≤ byte && byte ≤ 0xF3 then some ⟨3, 0x80, 0xBF⟩
  else if byte == 0xF4 then some ⟨3, 0x80, 0x8F⟩
  else none

/-- The continuation bytes, at most `count`, that the bytes begin with; the first of them lies
between the given bounds. -/
def continuation : Nat → UInt8 → UInt8 → List UInt8 → List UInt8
  | 0, _, _, _ => []
  | _ + 1, _, _, [] => []
  | count + 1, low, high, byte :: rest =>
    if low ≤ byte && byte ≤ high then byte :: continuation count 0x80 0xBF rest else []

/-- The number whose leading bits stand in the first byte of a character with `following`
further bytes. -/
def leadingBits (following : Nat) (byte : UInt8) : Nat :=
  byte.toNat % Nat.pow 2 (6 - following)

/-- The replacement character. -/
def replacement : Char := '\uFFFD'

/-- The character that the bytes `byte :: rest` begin with, and how many bytes of `rest` belong
to it. A broken sequence gives the replacement character. -/
def takeCharacter (byte : UInt8) (rest : List UInt8) : Char × Nat :=
  if byte < 0x80 then (Char.ofNat byte.toNat, 0)
  else
    match Lead.of? byte with
    | none => (replacement, 0)
    | some lead =>
      let found := continuation lead.following lead.low lead.high rest
      if found.length = lead.following then
        (Char.ofNat (found.foldl (fun n b => 64 * n + b.toNat % 64)
          (leadingBits lead.following byte)), found.length)
      else (replacement, found.length)

/-- The characters of any bytes, every broken sequence replaced. -/
def repair : List UInt8 → List Char
  | [] => []
  | byte :: rest =>
    let taken := takeCharacter byte rest
    taken.1 :: repair (rest.drop taken.2)
  termination_by bytes => bytes.length
  decreasing_by simp only [List.length_cons, List.length_drop]; omega

/-- The text of any bytes: what they encode if they are well formed, and otherwise their
characters with every broken sequence replaced. -/
def repaired (bytes : ByteArray) : String :=
  match String.fromUTF8? bytes with
  | some text => text
  | none => String.ofList (repair bytes.data.toList)

end PatternRefinement.Text
