import PatternRefinement.Text.Reader
import PatternRefinement.Text.Digits
import PatternRefinement.Number.Binary64

/-!
# TOML numbers and dates

## Main Definitions

* `Attempt` — what comes of trying a form: it fits, it does not, or it is begun and broken
* `date`, `time`, `dateTime` — dates and times of day
* `float`, `integer` — numbers
* `scalar` — the text behind a number or date

## Design Notes

Settings hold none of these, so only their extent matters. The forms are tried in the order
date, float, integer. A form that has shown itself by a character that no other form has, and
then breaks off, ends the attempt: a month of thirteen is no other number.
-/

namespace PatternRefinement.Toml

/-- What comes of trying a form on a text. -/
inductive Attempt (α : Type) where
  /-- It fits, and this is left. -/
  | fits (value : α) (rest : List Char)
  /-- It is not this form. -/
  | differs
  /-- It is this form, and it is broken. -/
  | broken

namespace Attempt

variable {α β : Type}

/-- Goes on with what is left. -/
def andThen (attempt : Attempt α) (next : α → List Char → Attempt β) : Attempt β :=
  match attempt with
  | fits value rest => next value rest
  | differs => differs
  | broken => broken

/-- From here on there is no other form. -/
def committed : Attempt α → Attempt α
  | differs => broken
  | attempt => attempt

/-- Tries another form. -/
def orElse (attempt other : Attempt α) : Attempt α :=
  match attempt with
  | differs => other
  | attempt => attempt

end Attempt

/-- One character of a kind. -/
def one (isKind : Char → Bool) : List Char → Attempt Char
  | c :: rest => if isKind c then .fits c rest else .differs
  | [] => .differs

/-- A number of exactly `count` digits between two bounds. -/
def fixedNumber (count low high : Nat) (text : List Char) : Attempt Nat :=
  let digits := text.take count
  if digits.length = count && digits.all Char.isDigit then
    let n := Text.digitsValue digits
    if low ≤ n && n ≤ high then .fits n (text.drop count) else .differs
  else .differs

/-! ### Dates -/

/-- How many days a month has. -/
def daysIn (year month : Nat) : Nat :=
  if month = 2 then
    if year % 4 = 0 ∧ (year % 100 ≠ 0 ∨ year % 400 = 0) then 29 else 28
  else if month = 4 ∨ month = 6 ∨ month = 9 ∨ month = 11 then 30
  else 31

/-- A day of the calendar. -/
def date (text : List Char) : Attempt Unit :=
  (fixedNumber 4 0 9999 text).andThen fun year text =>
    (one (· == '-') text).andThen fun _ text =>
      ((fixedNumber 2 1 12 text).andThen fun month text =>
        (one (· == '-') text).andThen fun _ text =>
          (fixedNumber 2 1 31 text).andThen fun day text =>
            if day ≤ daysIn year month then .fits () text else .broken).committed

/-- The fraction of a second, if there is one. -/
def secondFraction (text : List Char) : List Char :=
  match text with
  | '.' :: rest =>
    if (rest.takeWhile Char.isDigit).isEmpty then text else rest.dropWhile Char.isDigit
  | text => text

/-- A time of day. -/
def time (text : List Char) : Attempt Unit :=
  (fixedNumber 2 0 23 text).andThen fun _ text =>
    (one (· == ':') text).andThen fun _ text =>
      ((fixedNumber 2 0 59 text).andThen fun _ text =>
        (one (· == ':') text).andThen fun _ text =>
          (fixedNumber 2 0 60 text).andThen fun _ text => .fits () (secondFraction text)).committed

/-- A distance from universal time. -/
def offset (text : List Char) : Attempt Unit :=
  ((one (fun c => c == 'Z' || c == 'z') text).andThen fun _ text => .fits () text).orElse
    ((one (fun c => c == '+' || c == '-') text).andThen fun _ text =>
      ((fixedNumber 2 0 23 text).andThen fun _ text =>
        (one (· == ':') text).andThen fun _ text =>
          (fixedNumber 2 0 59 text).andThen fun _ text => .fits () text).committed)

/-- A day, a time of day, or both with a distance from universal time. -/
def dateTime (text : List Char) : Attempt Unit :=
  ((date text).andThen fun _ dayEnd =>
    match (one (fun c => c == 'T' || c == 't' || c == ' ') dayEnd).andThen fun _ text =>
        (time text).andThen fun _ timeEnd =>
          match offset timeEnd with
          | .differs => .fits () timeEnd
          | found => found with
    | .differs => .fits () dayEnd
    | found => found).orElse (time text)

/-! ### Numbers -/

/-- The digits behind the first one, with single underscores between digits. -/
def moreDigits (isDigit : Char → Bool) : List Char → Attempt (List Char)
  | [] => .fits [] []
  | '_' :: rest =>
    match rest with
    | d :: rest =>
      if isDigit d then (moreDigits isDigit rest).andThen fun ds rest => .fits (d :: ds) rest
      else .broken
    | [] => .broken
  | d :: rest =>
    if isDigit d then (moreDigits isDigit rest).andThen fun ds rest => .fits (d :: ds) rest
    else .fits [] (d :: rest)

/-- Digits with single underscores between them. -/
def digitRun (isDigit : Char → Bool) (text : List Char) : Attempt (List Char) :=
  (one isDigit text).andThen fun d rest =>
    (moreDigits isDigit rest).andThen fun ds rest => .fits (d :: ds) rest

/-- A whole number in decimal, with a sign and without a zero before other digits. -/
def wholeNumber (text : List Char) : Attempt (Bool × List Char) :=
  let (negative, text) :=
    match text with
    | '-' :: rest => (true, rest)
    | '+' :: rest => (false, rest)
    | text => (false, text)
  match text with
  | '0' :: rest => .fits (negative, ['0']) rest
  | text => (digitRun Char.isDigit text).andThen fun ds rest => .fits (negative, ds) rest

/-- A power of ten behind a number. -/
def exponent (text : List Char) : Attempt Int :=
  (one (fun c => c == 'e' || c == 'E') text).andThen fun _ text =>
    let (negative, text) :=
      match text with
      | '-' :: rest => (true, rest)
      | '+' :: rest => (false, rest)
      | text => (false, text)
    ((digitRun Char.isDigit text).andThen fun ds rest =>
      let n : Int := Text.digitsValue ds
      .fits (if negative then -n else n) rest).committed

/-- The digits behind a point. -/
def fraction (text : List Char) : Attempt (List Char) :=
  (one (· == '.') text).andThen fun _ text => (digitRun Char.isDigit text).committed

/-- Whether a decimal is too great for a double. -/
def overflows (digits : Nat) (power : Int) : Bool :=
  if digits = 0 then false
  else if 400 < (Nat.toDigits 10 digits).length + power then true
  else if power < 0 then
    (Binary64.nearest? false digits (Nat.pow 10 (min (-power).toNat 2000))).isNone
  else (Binary64.nearest? false (digits * Nat.pow 10 power.toNat) 1).isNone

/-- A number with a fraction or a power of ten. A positive one has to be a finite double. -/
def float (text : List Char) : Attempt Unit :=
  (wholeNumber text).andThen fun (negative, whole) text =>
    let finished (fractionDigits : List Char) (power : Int) (rest : List Char) : Attempt Unit :=
      if !negative && overflows (Text.digitsValue (whole ++ fractionDigits))
          (power - fractionDigits.length) then .differs
      else .fits () rest
    ((exponent text).andThen fun power rest => finished [] power rest).orElse
      ((fraction text).andThen fun digits rest =>
        match exponent rest with
        | .fits power rest => finished digits power rest
        | .differs => finished digits 0 rest
        | .broken => .broken)

/-- The digits of a radix. -/
def isRadixDigit (radix : Nat) (c : Char) : Bool :=
  match Text.hexDigit? c with
  | some n => n < radix
  | none => false

/-- A whole number in another radix, from behind its two-letter mark. -/
def radixNumber (radix : Nat) (text : List Char) : Attempt Unit :=
  (digitRun (isRadixDigit radix) text).committed.andThen fun digits rest =>
    let n := digits.foldl (fun n c => radix * n + (Text.hexDigit? c).getD 0) 0
    if n < Nat.pow 2 63 then .fits () rest else .broken

/-- A whole number that a signed word of 64 bits can hold. -/
def integer (text : List Char) : Attempt Unit :=
  match text with
  | '0' :: 'x' :: rest => radixNumber 16 rest
  | '0' :: 'o' :: rest => radixNumber 8 rest
  | '0' :: 'b' :: rest => radixNumber 2 rest
  | text =>
    (wholeNumber text).andThen fun (negative, digits) rest =>
      let n := Text.digitsValue digits
      if n < Nat.pow 2 63 || (negative && n = Nat.pow 2 63) then .fits () rest else .broken

/-- Infinity or the undefined number, with a sign. -/
def specialFloat (text : List Char) : Attempt Unit :=
  let unsigned :=
    match text with
    | '-' :: rest => rest
    | '+' :: rest => rest
    | text => text
  match unsigned with
  | 'i' :: 'n' :: 'f' :: rest => .fits () rest
  | 'n' :: 'a' :: 'n' :: rest => .fits () rest
  | _ => .differs

/-- The text behind the number or date that a text begins with. -/
def scalar? (text : List Char) : Option (List Char) :=
  match (((dateTime text).orElse (float text)).orElse (specialFloat text)).orElse (integer text)
  with
  | .fits _ rest => some rest
  | _ => none

end PatternRefinement.Toml
