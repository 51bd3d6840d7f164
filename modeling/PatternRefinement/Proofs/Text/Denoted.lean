import PatternRefinement.Proofs.Text.Percent

/-!
# What escaped texts denote

## Main Definitions

* `Denotes` — the bytes that a text with escapes denotes

## Main Statements

* `exists_split_of_bytes` — a text is found in another one where its bytes are found
* `exists_denotes_iff` — a text denotes something if every percent sign in it begins an escape
* `decode_eq_ok_iff` — what is read from a text is what it denotes

## Design Notes

Escapes are read from bytes, and `Denotes` is about characters.  No byte of a character is mistaken
for another character, because the first byte of a character is never a later one.
-/

namespace PatternRefinement.Text

/-! ## Texts in bytes -/

/-- **A text is found in another one where its bytes are found.** -/
theorem exists_split_of_bytes {text other : String} {before behind : ByteArray}
    (nonempty : other ≠ "")
    (found : text.toByteArray = before ++ (other.toByteArray ++ behind)) :
    ∃ front rest : String, text = front ++ (other ++ rest) ∧ front.toByteArray = before := by
  have some : 0 < other.toByteArray.size := by
    rw [String.size_toByteArray]
    exact Nat.pos_of_ne_zero fun none => nonempty (String.utf8ByteSize_eq_zero_iff.mp none)
  -- The first byte of the text that is found is one that a character begins with.
  have boundary : String.Pos.Raw.IsValid text ⟨before.size⟩ := by
    have inside : (⟨before.size⟩ : String.Pos.Raw) < text.rawEndPos := by
      rw [String.Pos.Raw.lt_iff, String.byteIdx_rawEndPos, ← String.size_toByteArray, found]
      simp only [ByteArray.size_append]
      omega
    refine String.Pos.Raw.isValid_iff_isUTF8FirstByte.mpr (Or.inr ⟨inside, ?_⟩)
    simp only [String.getUTF8Byte, found]
    rw [ByteArray.getElem_append_right (Nat.le_refl _)]
    simp only [Nat.sub_self]
    rw [ByteArray.getElem_append_left some]
    exact other.isValidUTF8.isUTF8FirstByte_getElem_zero some
  obtain ⟨front, back, rfl, size⟩ := String.Pos.Raw.isValid_iff_exists_append.mp boundary
  rw [String.toByteArray_append] at found
  have size : before.size = front.toByteArray.size := by
    rw [String.size_toByteArray]
    exact congrArg String.Pos.Raw.byteIdx size
  obtain rfl : front.toByteArray = before := ByteArray.append_inj_left found size.symm
  have bytes := (ByteArray.append_right_inj _).mp found
  rw [← String.utf8Encode_toList, ← String.utf8Encode_toList] at bytes
  obtain ⟨rest, same⟩ := List.isPrefix_of_utf8Encode_append_eq_utf8Encode behind bytes.symm
  refine ⟨front, String.ofList rest, ?_, rfl⟩
  rw [String.append_right_inj, ← String.toList_inj, String.toList_append, String.toList_ofList,
    same]

theorem fromUTF8?_eq_some_iff {bytes : ByteArray} {text : String} :
    String.fromUTF8? bytes = some text ↔ text.toByteArray = bytes := by
  unfold String.fromUTF8?
  constructor
  · intro read
    split at read
    · cases read
      rfl
    · cases read
  · rintro rfl
    exact dif_pos text.isValidUTF8

theorem fromUTF8?_toByteArray_eq_some_iff {bytes : List UInt8} {text : String} :
    String.fromUTF8? bytes.toByteArray = some text ↔ text.toUTF8.data.toList = bytes := by
  rw [fromUTF8?_eq_some_iff, String.toUTF8_eq_toByteArray]
  constructor
  · intro same
    rw [same, List.data_toByteArray]
  · rintro rfl
    exact ByteArray.ext (by rw [List.data_toByteArray, Array.toArray_toList])

namespace Percent

/-! ## Texts with escapes -/

/-- The bytes that a text with escapes denotes: one for each escape, and those of every other
character.  There are none if a percent sign begins no escape. -/
inductive Denotes : List Char → List UInt8 → Prop
  | nil : Denotes [] []
  | plain {c : Char} {text : List Char} {bytes : List UInt8} (free : c ≠ '%')
      (rest : Denotes text bytes) : Denotes (c :: text) (String.utf8EncodeChar c ++ bytes)
  | escaped {byte : UInt8} {high low : Char} {text : List Char} {bytes : List UInt8}
      (first : IsHexDigit (byte.toNat / 16) high) (second : IsHexDigit (byte.toNat % 16) low)
      (rest : Denotes text bytes) : Denotes ('%' :: high :: low :: text) (byte :: bytes)

theorem Denotes.ne_nil {text : List Char} {bytes : List UInt8} (denotes : Denotes text bytes)
    (nonempty : text ≠ []) : bytes ≠ [] := by
  cases denotes with
  | nil => exact absurd rfl nonempty
  | plain free rest => exact List.append_ne_nil_of_left_ne_nil String.utf8EncodeChar_ne_nil _
  | escaped first second rest => exact List.cons_ne_nil _ _

theorem length_flatMap_utf8EncodeChar (text : List Char) :
    (text.flatMap String.utf8EncodeChar).length = (String.ofList text).utf8ByteSize := by
  rw [← toList_toUTF8_ofList]
  rfl

/-- A text with escapes is not shorter than what it denotes. -/
theorem Denotes.length_le {text : List Char} {bytes : List UInt8} (denotes : Denotes text bytes) :
    bytes.length ≤ (String.ofList text).utf8ByteSize := by
  rw [← length_flatMap_utf8EncodeChar]
  induction denotes with
  | nil => exact Nat.le_refl 0
  | plain free _ ih =>
      rw [List.flatMap_cons, List.length_append, List.length_append]
      exact Nat.add_le_add_left ih _
  | escaped first second _ ih =>
      obtain ⟨a, b, split, -⟩ := Escapes.exists_bytes _ first second
      rw [split]
      simp only [List.length_cons]
      omega

/-! ## Digits -/

theorem ne_percent_of_isHexDigit {value : Nat} {digit : Char} (h : IsHexDigit value digit) :
    digit ≠ '%' := by
  rintro rfl
  rcases h with lower | upper
  · exact absurd (List.mem_of_getElem? lower) (by decide)
  · exact absurd (List.mem_of_getElem? upper) (by decide)

theorem lt_of_isHexDigit {value : Nat} {digit : Char} (h : IsHexDigit value digit) :
    value < 16 := by
  rcases h with lower | upper
  · exact (List.getElem?_eq_some_iff.mp lower).1
  · exact (List.getElem?_eq_some_iff.mp upper).1

instance (value : Nat) (digit : Char) : Decidable (IsHexDigit value digit) :=
  inferInstanceAs (Decidable (_ ∨ _))

/-- A byte that is read as a digit is all of a character that is one. -/
theorem isHexDigit_of_hexValue? {byte value : UInt8} (read : hexValue? byte = some value) :
    ∃ digit, String.utf8EncodeChar digit = [byte] ∧ IsHexDigit value.toNat digit := by
  have all : ∀ n : Fin 256, ∀ value ∈ hexValue? (UInt8.ofNat n),
      String.utf8EncodeChar (Char.ofNat n) = [UInt8.ofNat n] ∧
        IsHexDigit value.toNat (Char.ofNat n) := by decide +kernel
  have here := all ⟨byte.toNat, byte.toNat_lt⟩ value
  rw [UInt8.ofNat_toNat] at here
  exact ⟨_, here read⟩

/-- Two digits denote a byte. -/
theorem exists_byte_of_isHexDigit {h l : Nat} {high low : Char} (first : IsHexDigit h high)
    (second : IsHexDigit l low) : ∃ byte : UInt8,
      IsHexDigit (byte.toNat / 16) high ∧ IsHexDigit (byte.toNat % 16) low := by
  have highBound := lt_of_isHexDigit first
  have lowBound := lt_of_isHexDigit second
  refine ⟨UInt8.ofNat (16 * h + l), ?_⟩
  rw [UInt8.toNat_ofNat_of_lt' (show 16 * h + l < 2 ^ 8 by omega),
    show (16 * h + l) / 16 = h by omega, show (16 * h + l) % 16 = l by omega]
  exact ⟨first, second⟩

/-- Two bytes that are read as a byte are all of two digits of it. -/
theorem isHexDigit_of_escaped? {a b byte : UInt8} (read : escaped? a b = some byte) :
    ∃ high low, [high, low].flatMap String.utf8EncodeChar = [a, b] ∧
      IsHexDigit (byte.toNat / 16) high ∧ IsHexDigit (byte.toNat % 16) low := by
  unfold escaped? at read
  split at read
  · rename_i h l highValue lowValue
    obtain ⟨high, highBytes, first⟩ := isHexDigit_of_hexValue? highValue
    obtain ⟨low, lowBytes, second⟩ := isHexDigit_of_hexValue? lowValue
    have highBound := lt_of_isHexDigit first
    have lowBound := lt_of_isHexDigit second
    have value : byte.toNat = 16 * h.toNat + l.toNat := by
      rw [← Option.some.inj read, UInt8.toNat_add, UInt8.toNat_mul, show (16 : UInt8).toNat = 16
        from rfl]
      omega
    refine ⟨high, low, by rw [List.flatMap_cons, List.flatMap_singleton, highBytes, lowBytes]; rfl,
      ?_, ?_⟩
    · rwa [show byte.toNat / 16 = h.toNat by omega]
    · rwa [show byte.toNat % 16 = l.toNat by omega]
  · cases read

/-! ## Reading -/

/-- Bytes without a broken escape that begin with a percent sign begin with an escape. -/
theorem exists_escape_of_brokenEscape? {offset : Nat} {bytes : List UInt8}
    (whole : brokenEscape? offset (sign :: bytes) = none) :
    ∃ a b byte rest, bytes = a :: b :: rest ∧ escaped? a b = some byte ∧
      brokenEscape? (offset + 3) rest = none := by
  rw [brokenEscape?.eq_def] at whole
  simp only [if_true] at whole
  split at whole
  · rename_i a b rest
    split at whole
    · rename_i valid
      obtain ⟨byte, value⟩ := Option.isSome_iff_exists.mp valid
      exact ⟨a, b, byte, rest, rfl, value, whole⟩
    · cases whole
  · cases whole

theorem Denotes.brokenEscape?_front_append {text : List Char} {bytes : List UInt8}
    (denotes : Denotes text bytes) (offset : Nat) (rest : List UInt8) :
    brokenEscape? offset (text.flatMap String.utf8EncodeChar ++ rest) =
      brokenEscape? (offset + (text.flatMap String.utf8EncodeChar).length) rest := by
  induction denotes generalizing offset with
  | nil => rfl
  | plain free _ ih =>
      rw [List.flatMap_cons, List.append_assoc,
        brokenEscape?_append (sign_not_mem_utf8EncodeChar free), ih, List.length_append,
        Nat.add_assoc]
  | escaped first second _ ih =>
      obtain ⟨a, b, split, value⟩ := Escapes.exists_bytes _ first second
      rw [split]
      simp only [List.cons_append, brokenEscape?, value, Option.isSome_some, if_true, ih,
        List.length_cons]
      congr 1
      omega

theorem Denotes.unescape_eq {text : List Char} {bytes : List UInt8} (denotes : Denotes text bytes) :
    unescape (text.flatMap String.utf8EncodeChar) = bytes := by
  induction denotes with
  | nil => rfl
  | plain free _ ih =>
      rw [List.flatMap_cons, unescape_append (sign_not_mem_utf8EncodeChar free), ih]
  | escaped first second _ ih =>
      obtain ⟨a, b, split, value⟩ := Escapes.exists_bytes _ first second
      rw [split]
      simp only [unescape, value, if_true, ih]

theorem Denotes.read {text : List Char} {bytes : List UInt8} (denotes : Denotes text bytes)
    (offset : Nat) : brokenEscape? offset (text.flatMap String.utf8EncodeChar) = none ∧
      unescape (text.flatMap String.utf8EncodeChar) = bytes := by
  have whole := denotes.brokenEscape?_front_append offset []
  rw [List.append_nil] at whole
  exact ⟨whole, denotes.unescape_eq⟩

/-- Two bytes that are read as a byte are two characters of their own in a text. -/
theorem exists_digits_of_escaped? {text : List Char} {a b byte : UInt8} {rest : List UInt8}
    (split : text.flatMap String.utf8EncodeChar = a :: b :: rest)
    (value : escaped? a b = some byte) : ∃ high low others,
      text = high :: low :: others ∧ others.flatMap String.utf8EncodeChar = rest ∧
      IsHexDigit (byte.toNat / 16) high ∧ IsHexDigit (byte.toNat % 16) low := by
  obtain ⟨high, low, digits, first, second⟩ := isHexDigit_of_escaped? value
  obtain ⟨others, rfl⟩ : [high, low] <+: text := by
    refine List.isPrefix_of_utf8Encode_append_eq_utf8Encode rest.toByteArray ?_
    rw [List.utf8Encode, List.utf8Encode, split, digits, ← List.toByteArray_append]
    rfl
  rw [List.flatMap_append, digits] at split
  exact ⟨high, low, others, rfl, by simpa using split, first, second⟩

/-- A text whose bytes are read denotes what is read. -/
theorem denotes_of_read (text : List Char) {offset : Nat}
    (whole : brokenEscape? offset (text.flatMap String.utf8EncodeChar) = none) :
    Denotes text (unescape (text.flatMap String.utf8EncodeChar)) := by
  cases text with
  | nil => exact .nil
  | cons c text =>
      by_cases percent : c = '%'
      · subst percent
        rw [List.flatMap_cons, show String.utf8EncodeChar '%' = [sign] from rfl,
          List.singleton_append] at whole ⊢
        obtain ⟨a, b, byte, rest, split, value, behind⟩ := exists_escape_of_brokenEscape? whole
        obtain ⟨high, low, others, rfl, rfl, first, second⟩ := exists_digits_of_escaped? split value
        simp only [split, unescape, if_true, value]
        exact .escaped first second (denotes_of_read others behind)
      · have absent := sign_not_mem_utf8EncodeChar percent
        rw [List.flatMap_cons, brokenEscape?_append absent] at whole
        rw [List.flatMap_cons, unescape_append absent]
        exact .plain percent (denotes_of_read text whole)
  termination_by text.length

/-- **What is read from a text is what it denotes**, if that is a text again. -/
theorem decode_eq_ok_iff {text : List Char} {name : String} :
    decode (String.ofList text) = .ok name ↔ Denotes text name.toUTF8.data.toList := by
  rw [decode, toList_toUTF8_ofList]
  constructor
  · intro read
    split at read
    · cases read
    · rename_i whole
      split at read
      · rename_i decoded valid
        cases read
        rw [fromUTF8?_toByteArray_eq_some_iff.mp valid]
        exact denotes_of_read text whole
      · cases read
  · intro denotes
    obtain ⟨whole, value⟩ := denotes.read 0
    rw [whole, value]
    dsimp only
    rw [fromUTF8?_toByteArray_eq_some_iff.mpr rfl]

/-! ## Texts that denote something -/

/-- Every percent sign of a text begins an escape: two hexadecimal digits follow it. -/
def Escaped (text : List Char) : Prop :=
  ∀ front behind, text = front ++ '%' :: behind →
    ∃ high low rest, behind = high :: low :: rest ∧
      (∃ value, IsHexDigit value high) ∧ ∃ value, IsHexDigit value low

theorem escaped_cons {c : Char} {text : List Char} (plain : c ≠ '%') :
    Escaped (c :: text) ↔ Escaped text := by
  constructor
  · intro escaped front behind split
    exact escaped (c :: front) behind (by rw [split, List.cons_append])
  · intro escaped front behind split
    cases front with
    | nil => exact absurd (List.cons_eq_cons.mp split).1 plain
    | cons first front => exact escaped front behind (List.cons_eq_cons.mp split).2

/-- **A text denotes something if every percent sign in it begins an escape**, and only then. -/
theorem exists_denotes_iff (text : List Char) : (∃ bytes, Denotes text bytes) ↔ Escaped text := by
  constructor
  · rintro ⟨bytes, denotes⟩
    induction denotes with
    | nil =>
        intro front behind split
        cases front <;> cases split
    | plain free _ ih => exact (escaped_cons free).mpr ih
    | escaped first second _ ih =>
        intro front behind split
        cases front with
        | nil =>
            obtain rfl := (List.cons_eq_cons.mp split).2
            exact ⟨_, _, _, rfl, ⟨_, first⟩, ⟨_, second⟩⟩
        | cons _ front =>
            have digits := (escaped_cons (ne_percent_of_isHexDigit first)).mpr
              ((escaped_cons (ne_percent_of_isHexDigit second)).mpr ih)
            exact digits front behind (List.cons_eq_cons.mp split).2
  · intro escaped
    induction size : text.length using Nat.strong_induction_on generalizing text with
    | _ size ih =>
        cases text with
        | nil => exact ⟨[], .nil⟩
        | cons c text =>
            by_cases percent : c = '%'
            · subst percent
              obtain ⟨high, low, rest, rfl, ⟨h, first⟩, ⟨l, second⟩⟩ := escaped [] text rfl
              have others : Escaped rest := fun front behind split =>
                escaped ('%' :: high :: low :: front) behind (by rw [split]; rfl)
              obtain ⟨bytes, denotes⟩ := ih rest.length (by subst size; simp; omega) rest others rfl
              obtain ⟨byte, firstDigit, secondDigit⟩ := exists_byte_of_isHexDigit first second
              exact ⟨_, .escaped firstDigit secondDigit denotes⟩
            · obtain ⟨bytes, denotes⟩ := ih text.length (by subst size; simp) text
                ((escaped_cons percent).mp escaped) rfl
              exact ⟨_, .plain percent denotes⟩

end Percent

end PatternRefinement.Text
