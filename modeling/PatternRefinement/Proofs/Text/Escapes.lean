import PatternRefinement.Proofs.Text.Denoted

/-!
# Where escapes break

## Main Definitions

* `BreaksBehind`, `FirstBreak` — the percent signs that no two digits follow, and the first of them
* `scanFrom` — the search for it, from place to place in the bytes

## Main Statements

* `brokenEscape?_eq_some_iff` — the first percent sign that no two digits follow is found
* `brokenEscape?_drop` — no byte is looked at that is not there
* `decode_by_escapes` — what is read from any text, and what is told if nothing is

## Design Notes

The search goes on behind the two digits of an escape.  A percent sign is no digit, so none is
passed over, and everything before the first one that breaks is well formed (`FirstBreak.escaped`).
-/

namespace PatternRefinement.Text.Percent

/-! ## Percent signs that begin no escape -/

/-- A text begins with two hexadecimal digits. -/
def DigitsFirst (text : List Char) : Prop :=
  ∃ high low rest, text = high :: low :: rest ∧
    (∃ value, IsHexDigit value high) ∧ ∃ value, IsHexDigit value low

/-- A text goes on behind `front` with a percent sign that no two digits follow. -/
def BreaksBehind (text front : List Char) : Prop :=
  ∃ behind, text = front ++ '%' :: behind ∧ ¬ DigitsFirst behind

/-- The first percent sign of a text that no two digits follow stands behind `front`. -/
structure FirstBreak (text front : List Char) : Prop where
  breaks : BreaksBehind text front
  first : ∀ earlier, BreaksBehind text earlier → front.length ≤ earlier.length

variable {text front : List Char}

theorem escaped_iff : Escaped text ↔ ∀ front, ¬ BreaksBehind text front := by
  constructor
  · rintro escaped front ⟨behind, split, broken⟩
    exact broken (escaped front behind split)
  · intro unbroken front behind split
    by_contra broken
    exact unbroken front ⟨behind, split, broken⟩

theorem exists_firstBreak (broken : ¬ Escaped text) : ∃ front, FirstBreak text front := by
  obtain ⟨place, breaks⟩ : ∃ front, BreaksBehind text front := by
    simpa [escaped_iff] using broken
  obtain ⟨front, here, first⟩ :=
    WellFounded.has_min (measure List.length).wf {front | BreaksBehind text front} ⟨place, breaks⟩
  exact ⟨front, here, fun earlier breaks => Nat.le_of_not_lt (first earlier breaks)⟩

/-- Digits that a text begins with stand before every percent sign in it. -/
theorem digitsFirst_of_append (behind : List Char)
    (digits : DigitsFirst (text ++ '%' :: behind)) : DigitsFirst text := by
  obtain ⟨high, low, rest, split, ⟨h, first⟩, ⟨l, second⟩⟩ := digits
  match text with
  | [] =>
      cases split
      exact absurd rfl (ne_percent_of_isHexDigit first)
  | [_] =>
      cases split
      exact absurd rfl (ne_percent_of_isHexDigit second)
  | _ :: _ :: text =>
      cases split
      exact ⟨_, _, text, rfl, ⟨h, first⟩, ⟨l, second⟩⟩

/-- Everything before the first percent sign that breaks is well formed. -/
theorem FirstBreak.escaped (here : FirstBreak text front) : Escaped front := by
  obtain ⟨behind, rfl, broken⟩ := here.breaks
  intro earlier later split
  refine digitsFirst_of_append behind ?_
  by_contra unfinished
  have least := here.first earlier ⟨later ++ '%' :: behind, by rw [split]; simp, unfinished⟩
  rw [split, List.length_append, List.length_cons] at least
  omega

/-! ## The search -/

theorem brokenEscape?_of_not_digitsFirst {behind : List Char} (broken : ¬ DigitsFirst behind)
    (offset : Nat) :
    brokenEscape? offset (sign :: behind.flatMap String.utf8EncodeChar) = some offset := by
  rw [brokenEscape?.eq_def]
  simp only [if_true]
  split
  · rename_i a b rest split
    refine if_neg fun valid => broken ?_
    obtain ⟨byte, value⟩ := Option.isSome_iff_exists.mp valid
    obtain ⟨high, low, others, whole, -, first, second⟩ := exists_digits_of_escaped? split value
    exact ⟨high, low, others, whole, ⟨_, first⟩, ⟨_, second⟩⟩
  · rfl

theorem FirstBreak.brokenEscape?_eq (here : FirstBreak text front) :
    brokenEscape? 0 (text.flatMap String.utf8EncodeChar) =
      some (String.ofList front).utf8ByteSize := by
  obtain ⟨bytes, denotes⟩ := (exists_denotes_iff front).mpr here.escaped
  obtain ⟨behind, rfl, broken⟩ := here.breaks
  rw [List.flatMap_append, denotes.brokenEscape?_front_append, Nat.zero_add, List.flatMap_cons,
    length_flatMap_utf8EncodeChar]
  exact brokenEscape?_of_not_digitsFirst broken _

/-- **The first percent sign that no two digits follow is found**, and nothing if there is none. -/
theorem brokenEscape?_eq_some_iff {offset : Nat} :
    brokenEscape? 0 (text.flatMap String.utf8EncodeChar) = some offset ↔
      ∃ front, FirstBreak text front ∧ (String.ofList front).utf8ByteSize = offset := by
  constructor
  · intro found
    have broken : ¬ Escaped text := by
      intro escaped
      obtain ⟨bytes, denotes⟩ := (exists_denotes_iff text).mpr escaped
      cases (denotes.read 0).1.symm.trans found
    obtain ⟨front, here⟩ := exists_firstBreak broken
    exact ⟨front, here, Option.some.inj (here.brokenEscape?_eq.symm.trans found)⟩
  · rintro ⟨front, here, rfl⟩
    exact here.brokenEscape?_eq

/-! ### Places -/

/-- The place of the first percent sign that begins no escape, looked for from a place on.  A byte
is looked at only where there is one, and every step goes on to a later place. -/
def scanFrom (bytes : List UInt8) (place : Nat) : Option Nat :=
  if inside : place < bytes.length then
    if bytes[place] = sign then
      if room : place + 2 < bytes.length then
        if (escaped? bytes[place + 1] bytes[place + 2]).isSome then scanFrom bytes (place + 3)
        else some place
      else some place
    else scanFrom bytes (place + 1)
  else none
  termination_by bytes.length - place

/-- A percent sign with less than two bytes behind it begins no escape. -/
theorem brokenEscape?_of_short {rest : List UInt8} (short : rest.length < 2) (offset : Nat) :
    brokenEscape? offset (sign :: rest) = some offset := by
  match rest with
  | [] => rfl
  | [_] => rfl
  | _ :: _ :: _ =>
      simp only [List.length_cons] at short
      omega

/-- **No byte is looked at that is not there**: the search is the one from place to place. -/
theorem brokenEscape?_drop (bytes : List UInt8) (place : Nat) :
    brokenEscape? place (bytes.drop place) = scanFrom bytes place := by
  fun_induction scanFrom bytes place with
  | case1 place inside here room valid ih =>
      rw [List.drop_eq_getElem_cons inside, List.drop_eq_getElem_cons (show place + 1 < _ by omega),
        List.drop_eq_getElem_cons room]
      simp only [brokenEscape?, here, valid, if_true, ih]
  | case2 place inside here room broken =>
      rw [List.drop_eq_getElem_cons inside, List.drop_eq_getElem_cons (show place + 1 < _ by omega),
        List.drop_eq_getElem_cons room]
      simp only [brokenEscape?, here, if_true]
      exact if_neg broken
  | case3 place inside here short =>
      have few : (bytes.drop (place + 1)).length < 2 := by
        rw [List.length_drop]
        omega
      rw [List.drop_eq_getElem_cons inside, here, brokenEscape?_of_short few]
  | case4 place inside other ih =>
      rw [List.drop_eq_getElem_cons inside, brokenEscape?_cons other, ih]
  | case5 place outside =>
      rw [List.drop_eq_nil_of_le (Nat.le_of_not_lt outside)]
      rfl

/-! ## Reading -/

theorem decode_eq_malformedEscape_iff {text : String} {offset : Nat} :
    decode text = .error (.malformedEscape offset) ↔
      ∃ front, FirstBreak text.toList front ∧ (String.ofList front).utf8ByteSize = offset := by
  rw [← brokenEscape?_eq_some_iff, ← toList_toUTF8, decode]
  cases brokenEscape? 0 text.toUTF8.data.toList with
  | some place => simp
  | none =>
      dsimp only
      split <;> simp

theorem decode_eq_notText_iff {text : String} :
    decode text = .error .notText ↔
      ∃ bytes, Denotes text.toList bytes ∧ ∀ name : String, name.toUTF8.data.toList ≠ bytes := by
  rw [decode, toList_toUTF8]
  constructor
  · intro read
    split at read
    · cases read
    rename_i whole
    split at read
    · cases read
    rename_i invalid
    refine ⟨_, denotes_of_read text.toList whole, fun name same => ?_⟩
    cases invalid.symm.trans (fromUTF8?_toByteArray_eq_some_iff.mpr same)
  · rintro ⟨bytes, denotes, invalid⟩
    obtain ⟨whole, value⟩ := denotes.read 0
    rw [whole, value]
    dsimp only
    split
    · rename_i name valid
      exact absurd (fromUTF8?_toByteArray_eq_some_iff.mp valid) (invalid name)
    · rfl

/-- Every character of a text leaves a byte, so only nothing is read as nothing. -/
theorem denotes_nil_iff : Denotes text [] ↔ text = [] := by
  constructor
  · intro denotes
    by_contra nonempty
    exact denotes.ne_nil nonempty rfl
  · rintro rfl
    exact .nil

/-- **What is read from any text.**  The first percent sign that no two digits follow is told by the
number of bytes before it; without one, what the text denotes is read if it is a text again, and
otherwise it is told that it is none.  Only from the empty text nothing is read, and the search for
the percent sign stays within the bytes and ends with them. -/
theorem decode_by_escapes (text : String) :
    (∀ offset, decode text = .error (.malformedEscape offset) ↔
      ∃ front, FirstBreak text.toList front ∧ (String.ofList front).utf8ByteSize = offset) ∧
    (decode text = .error .notText ↔
      ∃ bytes, Denotes text.toList bytes ∧ ∀ name : String, name.toUTF8.data.toList ≠ bytes) ∧
    (∀ name, decode text = .ok name ↔ Denotes text.toList name.toUTF8.data.toList) ∧
    (decode text = .ok "" ↔ text = "") ∧
    brokenEscape? 0 text.toUTF8.data.toList = scanFrom text.toUTF8.data.toList 0 := by
  have reads (name : String) :
      decode text = .ok name ↔ Denotes text.toList name.toUTF8.data.toList := by
    rw [← decode_eq_ok_iff, String.ofList_toList]
  refine ⟨fun offset => decode_eq_malformedEscape_iff, decode_eq_notText_iff, reads, ?_, ?_⟩
  · rw [reads, ← String.toList_eq_nil_iff]
    exact denotes_nil_iff
  · exact brokenEscape?_drop text.toUTF8.data.toList 0

/-- Offsets count bytes, and an escape may be cut off at the end of a text. -/
example : decode "é%41%4" = .error (.malformedEscape 5) := by decide +kernel

/-- Two escapes may be one character together; a plus sign is no escape. -/
example : decode "%C3%a9+%2B" = .ok "é++" := by decide +kernel

end PatternRefinement.Text.Percent
