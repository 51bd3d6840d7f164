import PatternRefinement.Proofs.Text.Blank
import PatternRefinement.Proofs.Text.Denoted
import PatternRefinement.Proofs.Text.Repair

/-!
# Letter case

Only the letters of ASCII have a case here, and each of them is one byte.

## Main Definitions

* `lowerByte` — a byte in lower case, if it is a letter

## Main Statements

* `flatMap_lower` — the bytes of a text in lower case are those of the text, each in lower case
* `exists_text_of_lowered` — bytes that are well formed in lower case are well formed
* `Percent.exists_decode_of_same_letters` — what escaped text denotes depends on the case of its
  letters in the case of letters only

## Design Notes

An escape may denote a letter, and the letter has its own case whatever the case of the digits.  So
what lower-case text denotes need not be in lower case, and two texts have to be compared with each
other.
-/

namespace PatternRefinement.Text

/-- A byte in lower case, if it is a letter. -/
def lowerByte (byte : UInt8) : UInt8 :=
  if 0x41 ≤ byte.toNat ∧ byte.toNat ≤ 0x5A then byte + 0x20 else byte

/-! ## Letters -/

theorem toLower_of_large {c : Char} (large : 0x80 ≤ c.toNat) : c.toLower = c := by
  refine dif_neg fun upper => ?_
  have bound : c.toNat ≤ 90 := upper.2
  omega

/-- What holds of ASCII and of the characters that have no case holds of every character. -/
theorem forall_of_ascii {P : Char → Prop} (small : ∀ n < 0x80, P (Char.ofNat n))
    (large : ∀ c : Char, c.toLower = c → P c) (c : Char) : P c := by
  by_cases ascii : c.toNat < 0x80
  · have here := small c.toNat ascii
    rwa [Char.ofNat_toNat] at here
  · exact large c (toLower_of_large (by omega))

theorem toLower_toLower (c : Char) : c.toLower.toLower = c.toLower :=
  forall_of_ascii (P := fun c => c.toLower.toLower = c.toLower) (by decide +kernel)
    (fun c same => congrArg Char.toLower same) c

theorem isBlank_toLower (c : Char) : isBlank c.toLower = isBlank c :=
  forall_of_ascii (P := fun c => isBlank c.toLower = isBlank c) (by decide +kernel)
    (fun c same => congrArg isBlank same) c

/-- A character is its own lower case, or the capital letter of it. -/
theorem eq_toLower_or (c : Char) : c = c.toLower ∨ c = c.toLower.toUpper :=
  forall_of_ascii (P := fun c => c = c.toLower ∨ c = c.toLower.toUpper) (by decide +kernel)
    (fun _ same => Or.inl same.symm) c

/-- What has no case is not the lower case of anything else. -/
theorem toLower_eq_iff {c mark : Char} (lower : mark.toLower = mark) (upper : mark.toUpper = mark) :
    c.toLower = mark ↔ c = mark := by
  constructor
  · rintro rfl
    exact (eq_toLower_or c).elim id fun capital => capital.trans upper
  · rintro rfl
    exact lower

/-! ## Bytes of letters -/

theorem lowerByte_of_large {byte : UInt8} (large : 0x80 ≤ byte.toNat) : lowerByte byte = byte :=
  if_neg (by omega)

/-- Letters are small bytes in both cases. -/
theorem large_of_lowerByte {byte : UInt8} (large : 0x80 ≤ (lowerByte byte).toNat) :
    0x80 ≤ byte.toNat := by
  unfold lowerByte at large
  split at large
  · rw [UInt8.toNat_add, show (0x20 : UInt8).toNat = 32 from rfl] at large
    omega
  · exact large

theorem utf8EncodeChar_toLower_of_small : ∀ n < 0x80,
    String.utf8EncodeChar (Char.ofNat n).toLower = [lowerByte (UInt8.ofNat n)] := by
  decide +kernel

theorem utf8EncodeChar_of_lt {c : Char} (small : c.toNat < 0x80) :
    String.utf8EncodeChar c = [UInt8.ofNat c.toNat] := by
  have valid : c.toNat.isValidChar := c.valid
  have encoded := utf8EncodeChar_ofNat valid
  rwa [Char.ofNat_toNat, if_pos (by omega)] at encoded

/-- No byte of a character outside of ASCII is small. -/
theorem large_of_mem_utf8EncodeChar {c : Char} (large : 0x80 ≤ c.toNat) {byte : UInt8}
    (mem : byte ∈ String.utf8EncodeChar c) : 0x80 ≤ byte.toNat := by
  have valid : c.toNat.isValidChar := c.valid
  rw [← Char.ofNat_toNat c, utf8EncodeChar_ofNat valid, if_neg (by omega)] at mem
  split_ifs at mem <;> simp only [List.mem_cons, List.not_mem_nil, or_false] at mem <;>
    rcases mem with rfl | rfl | rfl | rfl <;> rw [UInt8.toNat_ofNat'] <;> omega

theorem map_lowerByte_of_large {bytes : List UInt8} (large : ∀ byte ∈ bytes, 0x80 ≤ byte.toNat) :
    bytes.map lowerByte = bytes :=
  (List.map_congr_left fun byte mem => lowerByte_of_large (large byte mem)).trans
    (List.map_id bytes)

theorem map_lowerByte_utf8EncodeChar (c : Char) :
    (String.utf8EncodeChar c).map lowerByte = String.utf8EncodeChar c.toLower := by
  by_cases small : c.toNat < 0x80
  · have lower := utf8EncodeChar_toLower_of_small c.toNat small
    rw [Char.ofNat_toNat] at lower
    rw [lower, utf8EncodeChar_of_lt small, List.map_singleton]
  · have large : 0x80 ≤ c.toNat := by omega
    rw [toLower_of_large large,
      map_lowerByte_of_large fun byte mem => large_of_mem_utf8EncodeChar large mem]

/-- **The bytes of a text in lower case are those of the text, each in lower case.** -/
theorem flatMap_lower (text : List Char) : (text.map Char.toLower).flatMap String.utf8EncodeChar =
    (text.flatMap String.utf8EncodeChar).map lowerByte := by
  rw [List.flatMap_map, List.map_flatMap]
  simp only [map_lowerByte_utf8EncodeChar]

theorem exists_character_of_lowered {part : List UInt8} {c : Char}
    (lowered : part.map lowerByte = String.utf8EncodeChar c) :
    ∃ other, part = String.utf8EncodeChar other := by
  by_cases small : c.toNat < 0x80
  · rw [utf8EncodeChar_of_lt small] at lowered
    obtain ⟨byte, rfl, value⟩ := List.map_eq_singleton_iff.mp lowered
    have least : byte.toNat < 0x80 := by
      by_contra large
      rw [lowerByte_of_large (by omega)] at value
      have number := congrArg UInt8.toNat value
      rw [UInt8.toNat_ofNat'] at number
      omega
    exact ⟨Char.ofNat byte.toNat, (utf8EncodeChar_of_small least).symm⟩
  · refine ⟨c, ?_⟩
    rw [← lowered, map_lowerByte_of_large fun byte mem => large_of_lowerByte ?_]
    exact large_of_mem_utf8EncodeChar (by omega) (lowered ▸ List.mem_map_of_mem mem)

/-- **Bytes that are well formed in lower case are well formed.** -/
theorem exists_text_of_lowered {bytes : List UInt8} {text : List Char}
    (lowered : bytes.map lowerByte = text.flatMap String.utf8EncodeChar) :
    ∃ other : List Char, bytes = other.flatMap String.utf8EncodeChar := by
  induction text generalizing bytes with
  | nil => exact ⟨[], List.map_eq_nil_iff.mp lowered⟩
  | cons c text ih =>
      rw [List.flatMap_cons] at lowered
      obtain ⟨part, behind, rfl, first, rest⟩ := List.map_eq_append_iff.mp lowered
      obtain ⟨d, rfl⟩ := exists_character_of_lowered first
      obtain ⟨others, rfl⟩ := ih rest
      exact ⟨d :: others, List.flatMap_cons.symm⟩

theorem flatMap_utf8EncodeChar_injective {text other : List Char}
    (same : text.flatMap String.utf8EncodeChar = other.flatMap String.utf8EncodeChar) :
    text = other := by
  have bytes := congrArg List.toByteArray same
  have read : (String.ofList text).toByteArray = (String.ofList other).toByteArray := by
    rw [String.toByteArray_ofList, String.toByteArray_ofList]
    exact bytes
  exact String.ofList_inj.mp (String.toByteArray_inj.mp read)

namespace Percent

/-! ## Escapes -/

variable {text other : List Char}

/-- A digit of a value may have either case. -/
theorem isHexDigit_of_toLower_eq {value : Nat} {digit letter : Char}
    (is : IsHexDigit value digit) (same : digit.toLower = letter.toLower) :
    IsHexDigit value letter := by
  have bound := lt_of_isHexDigit is
  have lower : "0123456789abcdef".toList[value]? = some letter.toLower := by
    rw [← same]
    rcases is with here | here <;> interval_cases value <;> cases here <;> rfl
  rcases eq_toLower_or letter with plain | capital
  · exact Or.inl (lower.trans (congrArg some plain.symm))
  · refine Or.inr ?_
    rw [capital]
    interval_cases value <;> rw [← Option.some.inj lower] <;> rfl

/-- **What escaped text denotes depends on the case of its letters in the case of letters only.** -/
theorem Denotes.exists_of_same_letters {bytes : List UInt8} (denotes : Denotes text bytes)
    (same : text.map Char.toLower = other.map Char.toLower) :
    ∃ others, Denotes other others ∧ others.map lowerByte = bytes.map lowerByte := by
  induction denotes generalizing other with
  | nil =>
      obtain rfl := List.map_eq_nil_iff.mp same.symm
      exact ⟨[], .nil, rfl⟩
  | @plain c text bytes free rest ih =>
      obtain ⟨d, other, rfl, first, behind⟩ := List.map_eq_cons_iff.mp same.symm
      obtain ⟨others, denotes, lowered⟩ := ih behind.symm
      have freeOther : d ≠ '%' := by
        rintro rfl
        exact free ((toLower_eq_iff rfl rfl).mp first.symm)
      refine ⟨String.utf8EncodeChar d ++ others, .plain freeOther denotes, ?_⟩
      rw [List.map_append, List.map_append, lowered, map_lowerByte_utf8EncodeChar,
        map_lowerByte_utf8EncodeChar, first]
  | @escaped byte high low text bytes firstDigit secondDigit rest ih =>
      obtain ⟨percent, _, rfl, isPercent, behind⟩ := List.map_eq_cons_iff.mp same.symm
      obtain ⟨first, _, rfl, sameHigh, behind⟩ := List.map_eq_cons_iff.mp behind
      obtain ⟨second, other, rfl, sameLow, behind⟩ := List.map_eq_cons_iff.mp behind
      obtain rfl : percent = '%' := (toLower_eq_iff rfl rfl).mp isPercent
      obtain ⟨others, denotes, lowered⟩ := ih behind.symm
      refine ⟨byte :: others, .escaped (isHexDigit_of_toLower_eq firstDigit sameHigh.symm)
        (isHexDigit_of_toLower_eq secondDigit sameLow.symm) denotes, ?_⟩
      rw [List.map_cons, List.map_cons, lowered]

/-- So texts that differ in letter case only denote such texts, or none of them denotes any. -/
theorem exists_decode_of_same_letters {name : String}
    (read : decode (String.ofList text) = .ok name)
    (same : text.map Char.toLower = other.map Char.toLower) :
    ∃ another : String, decode (String.ofList other) = .ok another ∧
      another.toLower = name.toLower := by
  have denotes := decode_eq_ok_iff.mp read
  rw [toList_toUTF8] at denotes
  obtain ⟨bytes, denotesOther, lowered⟩ := denotes.exists_of_same_letters same
  rw [← flatMap_lower] at lowered
  obtain ⟨another, rfl⟩ := exists_text_of_lowered lowered
  refine ⟨String.ofList another, decode_eq_ok_iff.mpr ?_, ?_⟩
  · rwa [toList_toUTF8_ofList]
  · rw [← flatMap_lower] at lowered
    show (String.ofList another).map Char.toLower = name.map Char.toLower
    rw [← String.toList_inj, String.toList_map, String.toList_map, String.toList_ofList]
    exact flatMap_utf8EncodeChar_injective lowered

end Percent

end PatternRefinement.Text
