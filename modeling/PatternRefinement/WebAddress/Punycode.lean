/-!
# Punycode

Any text can be written in letters, digits and hyphens: first its ASCII characters, and then, behind
a hyphen, where which other characters belong.

## Main Definitions

* `threshold`, `adapt` — how many digits a number gets, and how that changes
* `digits`, `takeNumber?` — numbers whose last digit can be told from the others
* `encode`, `decode?` — texts in this form

## Design Notes

The characters outside of ASCII come in the order of their numbers, those with equal numbers in the
order of their places. Each is told by a number: how many pairs of a place and a character lie
between it and the one before.
-/

namespace PatternRefinement.Punycode

/-- The number of digits. -/
def base : Nat := 36

/-- The least digit that is not the last one of its number, for the digit whose place is `k`. -/
def threshold (bias k : Nat) : Nat :=
  if k ≤ bias + 1 then 1 else if bias + 26 ≤ k then 26 else k - bias

/-- A threshold is a digit, and not zero. -/
theorem threshold_bounds (bias k : Nat) : 1 ≤ threshold bias k ∧ threshold bias k ≤ 26 := by
  unfold threshold
  split
  · omega
  · split <;> omega

/-- The bias for numbers of the size of `delta`: `k` more for each digit that it needs. -/
def biasFor (delta k : Nat) : Nat :=
  if 455 < delta then biasFor (delta / 35) (k + base) else k + 36 * delta / (delta + 38)
  termination_by delta
  decreasing_by omega

/-- The bias behind a number, when a text of `length` characters results; the first number of a text
tends to be large. -/
def adapt (delta length : Nat) (isFirst : Bool) : Nat :=
  let scaled := if isFirst then delta / 700 else delta / 2
  biasFor (scaled + scaled / length) 0

/-- The character of a digit. -/
def digitChar (n : Nat) : Char :=
  if n < 26 then Char.ofNat ('a'.toNat + n) else Char.ofNat ('0'.toNat + (n - 26))

/-- The digit that a character is. -/
def digit? (c : Char) : Option Nat :=
  if 'a' ≤ c && c ≤ 'z' then some (c.toNat - 'a'.toNat)
  else if 'A' ≤ c && c ≤ 'Z' then some (c.toNat - 'A'.toNat)
  else if '0' ≤ c && c ≤ '9' then some (c.toNat - '0'.toNat + 26)
  else none

/-- The digits of a number, the one that counts least first. -/
def digits (bias k n : Nat) : List Char :=
  let t := threshold bias k
  if n < t then [digitChar n]
  else digitChar (t + (n - t) % (base - t)) :: digits bias (k + base) ((n - t) / (base - t))
  termination_by n
  decreasing_by
    have bounds := threshold_bounds bias k
    have : (n - threshold bias k) / (base - threshold bias k) ≤ n - threshold bias k :=
      Nat.div_le_self _ _
    omega

/-- Takes a number from digits; a digit at place `k` counts `weight`. -/
def takeNumber? (bias k weight : Nat) : List Char → Option (Nat × List Char)
  | [] => none
  | c :: rest =>
    match digit? c with
    | none => none
    | some digit =>
      let t := threshold bias k
      if digit < t then some (digit * weight, rest)
      else
        (takeNumber? bias (k + base) (weight * (base - t)) rest).map fun (n, rest) =>
          (digit * weight + n, rest)

/-- A number takes up at least one digit. -/
theorem length_takeNumber? {bias k weight n : Nat} {text rest : List Char}
    (h : takeNumber? bias k weight text = some (n, rest)) : rest.length < text.length := by
  induction text generalizing k weight n with
  | nil => simp [takeNumber?] at h
  | cons c text ih =>
    simp only [takeNumber?] at h
    split at h
    · simp at h
    · split at h
      · simp only [Option.some.injEq, Prod.mk.injEq] at h
        simp [← h.2]
      · obtain ⟨⟨m, behind⟩, taken, eq⟩ := Option.map_eq_some_iff.1 h
        simp only [Prod.mk.injEq] at eq
        obtain ⟨-, rfl⟩ := eq
        have := ih taken
        rw [List.length_cons]
        omega

/-- The bias of the first number. -/
def firstBias : Nat := 72

/-- The first character outside of ASCII. -/
def firstCharacter : Nat := 0x80

/-! ### Encoding -/

/-- An encoding up to some character: how many characters have been told, whether none was told by a
number, the bias, the pairs since the last one, and the digits so far. -/
structure Encoding where
  told : Nat
  isFirst : Bool
  bias : Nat
  delta : Nat
  output : List Char
  deriving Repr, DecidableEq

/-- Tells the places of one character: `text` is the whole text and `n` the number of the
character. -/
def Encoding.tell (text : List Char) (state : Encoding) (n : Nat) : Encoding :=
  text.foldl (fun state c =>
    if c.toNat < n then { state with delta := state.delta + 1 }
    else if c.toNat = n then
      { told := state.told + 1, isFirst := false
        bias := adapt state.delta (state.told + 1) state.isFirst
        delta := 0, output := state.output ++ digits state.bias base state.delta }
    else state) state

/-- The numbers of the characters of a text outside of ASCII, in their order. -/
def foreignNumbers (text : List Char) : List Nat :=
  (((text.map Char.toNat).filter (firstCharacter ≤ ·)).mergeSort).eraseDups

/-- A text in this form. -/
def encode (text : List Char) : List Char :=
  let basic := text.filter (·.toNat < firstCharacter)
  let start : Encoding :=
    { told := basic.length, isFirst := true, bias := firstBias, delta := 0, output := [] }
  let step (state : Encoding × Nat) (n : Nat) : Encoding × Nat :=
    let (state, next) := state
    let skipped := (n - next) * (state.told + 1)
    let told := { state with delta := state.delta + skipped }.tell text n
    ({ told with delta := told.delta + 1 }, n + 1)
  let (state, _) := (foreignNumbers text).foldl step (start, firstCharacter)
  basic ++ (if basic.isEmpty then [] else ['-']) ++ state.output

/-! ### Decoding -/

/-- Puts the characters that numbers tell into a text. `n` is the number of the last character and
`place` the place behind it. -/
def decodeNumbers? (n place bias : Nat) (isFirst : Bool) (text : List Char) (numbers : List Char) :
    Option (List Char) :=
  if numbers.isEmpty then some text
  else
    match _h : takeNumber? bias base 1 numbers with
    | none => none
    | some (delta, rest) =>
      let length := text.length + 1
      let n := n + (place + delta) / length
      let place := (place + delta) % length
      if n.isValidChar then
        decodeNumbers? n (place + 1) (adapt delta length isFirst) false
          (text.take place ++ Char.ofNat n :: text.drop place) rest
      else none
  termination_by numbers.length
  decreasing_by exact length_takeNumber? _h

/-- The text that is written in this form. -/
def decode? (encoded : List Char) : Option (List Char) :=
  let reversed := encoded.reverse
  let numbers := (reversed.takeWhile (· != '-')).reverse
  let basic := ((reversed.dropWhile (· != '-')).drop 1).reverse
  decodeNumbers? firstCharacter 0 firstBias true basic numbers

end PatternRefinement.Punycode
