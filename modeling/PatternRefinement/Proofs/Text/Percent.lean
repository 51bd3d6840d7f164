import Mathlib.Tactic.IntervalCases
import PatternRefinement.Text.Percent

/-!
# Percent escapes are undone

A writer may escape any characters it likes, with digits of either letter case, as long as it
escapes the percent sign.  Whatever it chooses, the text is read back.

## Main Definitions

* `IsHexDigit` — the digits of a value, in either letter case
* `Escapes` — the texts that escape some bytes, one after the other
* `Encodes` — the texts that stand for a text in which some characters have to be escaped

## Main Statements

* `decode_of_encodes` — a text that was escaped is read back

## Design Notes

Escapes stand for bytes and a character may have several.  So reading is looked at on bytes, each
lemma with any bytes behind those that it is about, and only at the end the bytes are a text again.
-/

namespace PatternRefinement.Text.Percent

/-! ## Encodings -/

/-- A hexadecimal digit of a value, in either letter case. -/
def IsHexDigit (value : Nat) (digit : Char) : Prop :=
  "0123456789abcdef".toList[value]? = some digit ∨ "0123456789ABCDEF".toList[value]? = some digit

/-- A text that escapes bytes, one after the other. -/
inductive Escapes : List UInt8 → List Char → Prop
  | nil : Escapes [] []
  | cons {byte : UInt8} {high low : Char} {bytes : List UInt8} {text : List Char}
      (first : IsHexDigit (byte.toNat / 16) high) (second : IsHexDigit (byte.toNat % 16) low)
      (rest : Escapes bytes text) : Escapes (byte :: bytes) ('%' :: high :: low :: text)

/-- A text that stands for another one: each character is left as it is, unless it is reserved, or
all bytes of it are escaped. -/
inductive Encodes (reserved : List Char) : List Char → List Char → Prop
  | nil : Encodes reserved [] []
  | plain {c : Char} {name text : List Char} (free : c ∉ reserved)
      (rest : Encodes reserved name text) : Encodes reserved (c :: name) (c :: text)
  | escaped {c : Char} {escape name text : List Char}
      (escapes : Escapes (String.utf8EncodeChar c) escape) (rest : Encodes reserved name text) :
      Encodes reserved (c :: name) (escape ++ text)

/-! ## Bytes of characters -/

theorem toList_toUTF8_ofList (text : List Char) :
    (String.ofList text).toUTF8.data.toList = text.flatMap String.utf8EncodeChar := by
  rw [String.toUTF8_eq_toByteArray, String.toByteArray_ofList, List.utf8Encode,
    List.data_toByteArray]

theorem toList_toUTF8 (text : String) :
    text.toUTF8.data.toList = text.toList.flatMap String.utf8EncodeChar := by
  rw [← toList_toUTF8_ofList, String.ofList_toList]

/-- No byte of a character is a percent sign, unless the character is one. -/
theorem sign_not_mem_utf8EncodeChar {c : Char} (different : c ≠ '%') :
    sign ∉ String.utf8EncodeChar c := by
  have other {n : Nat} (apart : n % 256 ≠ 37) : sign ≠ UInt8.ofNat n := by
    intro same
    have value := congrArg UInt8.toNat same
    rw [UInt8.toNat_ofNat'] at value
    exact apart value.symm
  have number : c.val.toNat ≠ 37 := fun same => different (Char.ext (UInt32.toNat_inj.mp same))
  unfold String.utf8EncodeChar
  -- Only the first byte of a character is below 128, and then it is the only one.
  dsimp only
  split
  · refine List.not_mem_cons_of_ne_of_not_mem (other ?_) List.not_mem_nil
    omega
  · split_ifs <;> simp only [List.mem_cons, List.not_mem_nil, or_false, not_or]
    · exact ⟨other (by omega), other (by omega)⟩
    · exact ⟨other (by omega), other (by omega), other (by omega)⟩
    · exact ⟨other (by omega), other (by omega), other (by omega), other (by omega)⟩

/-- A digit is one byte, and its value is read from it. -/
theorem hexValue?_of_isHexDigit {value : Nat} {digit : Char} (h : IsHexDigit value digit) :
    ∃ byte, String.utf8EncodeChar digit = [byte] ∧
      hexValue? byte = some (UInt8.ofNat value) := by
  rcases h with lower | upper
  · have bound : value < 16 := (List.getElem?_eq_some_iff.mp lower).1
    interval_cases value <;> cases lower <;> exact ⟨_, rfl, by decide⟩
  · have bound : value < 16 := (List.getElem?_eq_some_iff.mp upper).1
    interval_cases value <;> cases upper <;> exact ⟨_, rfl, by decide⟩

theorem escaped?_of_isHexDigit {byte high low : UInt8}
    (first : hexValue? high = some (UInt8.ofNat (byte.toNat / 16)))
    (second : hexValue? low = some (UInt8.ofNat (byte.toNat % 16))) :
    escaped? high low = some byte := by
  have bound := byte.toNat_lt
  have whole : 16 * UInt8.ofNat (byte.toNat / 16) + UInt8.ofNat (byte.toNat % 16) = byte := by
    refine UInt8.toNat_inj.mp ?_
    have sixteen : (16 : UInt8).toNat = 16 := rfl
    rw [UInt8.toNat_add, UInt8.toNat_mul, UInt8.toNat_ofNat', UInt8.toNat_ofNat', sixteen]
    omega
  rw [escaped?, first, second]
  exact congrArg some whole

/-! ## Reading bytes -/

theorem brokenEscape?_cons {byte : UInt8} (different : byte ≠ sign) (offset : Nat)
    (rest : List UInt8) :
    brokenEscape? offset (byte :: rest) = brokenEscape? (offset + 1) rest := by
  rw [brokenEscape?.eq_def]
  exact if_neg different

theorem unescape_cons {byte : UInt8} (different : byte ≠ sign) (rest : List UInt8) :
    unescape (byte :: rest) = byte :: unescape rest := by
  rw [unescape.eq_def]
  exact if_neg different

theorem brokenEscape?_append {bytes : List UInt8} (absent : sign ∉ bytes) (offset : Nat)
    (rest : List UInt8) :
    brokenEscape? offset (bytes ++ rest) = brokenEscape? (offset + bytes.length) rest := by
  induction bytes generalizing offset with
  | nil => rfl
  | cons byte bytes ih =>
      obtain ⟨here, behind⟩ := List.ne_and_not_mem_of_not_mem_cons absent
      rw [List.cons_append, brokenEscape?_cons (Ne.symm here), ih behind, List.length_cons]
      congr 1
      omega

theorem unescape_append {bytes : List UInt8} (absent : sign ∉ bytes) (rest : List UInt8) :
    unescape (bytes ++ rest) = bytes ++ unescape rest := by
  induction bytes with
  | nil => rfl
  | cons byte bytes ih =>
      obtain ⟨here, behind⟩ := List.ne_and_not_mem_of_not_mem_cons absent
      rw [List.cons_append, unescape_cons (Ne.symm here), ih behind, List.cons_append]

/-- An escape is three bytes, which are read as the byte that it stands for. -/
theorem Escapes.exists_bytes {byte : UInt8} {high low : Char} (text : List Char)
    (first : IsHexDigit (byte.toNat / 16) high) (second : IsHexDigit (byte.toNat % 16) low) :
    ∃ a b, ('%' :: high :: low :: text).flatMap String.utf8EncodeChar =
        sign :: a :: b :: text.flatMap String.utf8EncodeChar ∧
      escaped? a b = some byte := by
  obtain ⟨a, highByte, highValue⟩ := hexValue?_of_isHexDigit first
  obtain ⟨b, lowByte, lowValue⟩ := hexValue?_of_isHexDigit second
  refine ⟨a, b, ?_, escaped?_of_isHexDigit highValue lowValue⟩
  rw [List.flatMap_cons, List.flatMap_cons, List.flatMap_cons, highByte, lowByte]
  rfl

theorem Escapes.brokenEscape? {bytes : List UInt8} {escape : List Char}
    (escapes : Escapes bytes escape) (offset : Nat) (rest : List UInt8) :
    brokenEscape? offset (escape.flatMap String.utf8EncodeChar ++ rest) =
      brokenEscape? (offset + 3 * bytes.length) rest := by
  induction escapes generalizing offset with
  | nil => rfl
  | cons first second _ ih =>
      obtain ⟨a, b, split, value⟩ := Escapes.exists_bytes _ first second
      rw [split]
      simp only [List.cons_append, Percent.brokenEscape?, value, Option.isSome_some, if_true, ih,
        List.length_cons]
      congr 1
      omega

theorem Escapes.unescape {bytes : List UInt8} {escape : List Char}
    (escapes : Escapes bytes escape) (rest : List UInt8) :
    unescape (escape.flatMap String.utf8EncodeChar ++ rest) = bytes ++ unescape rest := by
  induction escapes with
  | nil => rfl
  | cons first second _ ih =>
      obtain ⟨a, b, split, value⟩ := Escapes.exists_bytes _ first second
      rw [split]
      simp only [List.cons_append, Percent.unescape, value, if_true, ih]

/-! ## Reading an encoding -/

variable {reserved name text : List Char}

theorem Encodes.brokenEscape?_eq_none (encodes : Encodes reserved name text)
    (percent : '%' ∈ reserved) (offset : Nat) :
    brokenEscape? offset (text.flatMap String.utf8EncodeChar) = none := by
  induction encodes generalizing offset with
  | nil => rfl
  | plain free _ ih =>
      have absent := sign_not_mem_utf8EncodeChar (ne_of_mem_of_not_mem percent free).symm
      rw [List.flatMap_cons, brokenEscape?_append absent]
      exact ih _
  | escaped escapes _ ih =>
      rw [List.flatMap_append, escapes.brokenEscape?]
      exact ih _

theorem Encodes.unescape_eq (encodes : Encodes reserved name text) (percent : '%' ∈ reserved) :
    unescape (text.flatMap String.utf8EncodeChar) = name.flatMap String.utf8EncodeChar := by
  induction encodes with
  | nil => rfl
  | plain free _ ih =>
      have absent := sign_not_mem_utf8EncodeChar (ne_of_mem_of_not_mem percent free).symm
      rw [List.flatMap_cons, List.flatMap_cons, unescape_append absent, ih]
  | escaped escapes _ ih => rw [List.flatMap_append, List.flatMap_cons, escapes.unescape, ih]

/-- **A text that was escaped is read back**, whatever was escaped beside the percent sign. -/
theorem decode_of_encodes (encodes : Encodes reserved name text) (percent : '%' ∈ reserved) :
    decode (String.ofList text) = .ok (String.ofList name) := by
  have bytes : (name.flatMap String.utf8EncodeChar).toByteArray = (String.ofList name).toUTF8 :=
    String.toByteArray_ofList.symm
  have valid : String.fromUTF8? (String.ofList name).toUTF8 = some (String.ofList name) :=
    dif_pos (String.ofList name).isValidUTF8
  simp only [decode, toList_toUTF8_ofList, encodes.brokenEscape?_eq_none percent,
    encodes.unescape_eq percent, bytes, valid]

end PatternRefinement.Text.Percent
