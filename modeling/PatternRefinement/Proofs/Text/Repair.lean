import PatternRefinement.Proofs.Text.Denoted
import PatternRefinement.Text.Utf8

/-!
# What broken bytes become

## Main Definitions

* `Shape` — the table of the bytes of a character, after its first byte
* `Begins` — the bytes are all or some of those of a character, from the first one on
* `Broken` — the bytes that one replacement character stands for
* `Repairs` — the text of any bytes

## Main Statements

* `begins_iff_lead` — what an announcement lets follow is what characters have there
* `repairs_iff` — the characters of any bytes are those that `Repairs` tells
* `repairs_repaired_iff` — so is the text of any bytes, well formed or not

## Design Notes

`Repairs` speaks of how characters are encoded and not of announcements.  Broken bytes are as many
as a character could have begun with, because otherwise the length of a replaced sequence, and with
it the number of replacement characters, would be open.
-/

namespace PatternRefinement.Text

/-- The bytes are all or some of those of a character, from the first one on. -/
def Begins (bytes : List UInt8) : Prop := ∃ c, bytes <+: String.utf8EncodeChar c

/-- The bytes that one replacement character stands for, and those behind them.  No character is
complete there, and the broken ones are all that a character could have begun with, or one byte. -/
structure Broken (bad rest : List UInt8) : Prop where
  nonempty : bad ≠ []
  incomplete : ∀ c, ¬String.utf8EncodeChar c <+: bad ++ rest
  begins : Begins bad ∨ ∃ byte, bad = [byte]
  longest : ∀ more, more <+: bad ++ rest → Begins more → more.length ≤ bad.length

/-- The text of any bytes: their characters, and one replacement character for each broken
sequence. -/
inductive Repairs : List UInt8 → List Char → Prop
  | nil : Repairs [] []
  | character {c : Char} {rest : List UInt8} {text : List Char} (others : Repairs rest text) :
      Repairs (String.utf8EncodeChar c ++ rest) (c :: text)
  | broken {bad rest : List UInt8} {text : List Char} (sequence : Broken bad rest)
      (others : Repairs rest text) : Repairs (bad ++ rest) (replacement :: text)

/-! ## The bytes of a character -/

/-- The bytes that follow the first one of a character, if that has more than one. -/
inductive Shape (byte : UInt8) : List UInt8 → Prop
  | two {a : UInt8} (lower : 0xC2 ≤ byte.toNat) (upper : byte.toNat ≤ 0xDF)
      (first : 0x80 ≤ a.toNat ∧ a.toNat ≤ 0xBF) : Shape byte [a]
  | three {a b : UInt8} (lower : 0xE0 ≤ byte.toNat) (upper : byte.toNat ≤ 0xEF)
      (first : 0x80 ≤ a.toNat ∧ a.toNat ≤ 0xBF) (second : 0x80 ≤ b.toNat ∧ b.toNat ≤ 0xBF)
      (short : byte.toNat = 0xE0 → 0xA0 ≤ a.toNat) (scalar : byte.toNat = 0xED → a.toNat ≤ 0x9F) :
      Shape byte [a, b]
  | four {a b c : UInt8} (lower : 0xF0 ≤ byte.toNat) (upper : byte.toNat ≤ 0xF4)
      (first : 0x80 ≤ a.toNat ∧ a.toNat ≤ 0xBF) (second : 0x80 ≤ b.toNat ∧ b.toNat ≤ 0xBF)
      (third : 0x80 ≤ c.toNat ∧ c.toNat ≤ 0xBF) (short : byte.toNat = 0xF0 → 0x90 ≤ a.toNat)
      (scalar : byte.toNat = 0xF4 → a.toNat ≤ 0x8F) : Shape byte [a, b, c]

theorem utf8EncodeChar_ofNat {n : Nat} (valid : n.isValidChar) :
    String.utf8EncodeChar (Char.ofNat n) =
      if n ≤ 127 then [UInt8.ofNat n]
      else if n ≤ 2047 then [UInt8.ofNat (n / 64 % 32 + 192), UInt8.ofNat (n % 64 + 128)]
      else if n ≤ 65535 then [UInt8.ofNat (n / 4096 % 16 + 224), UInt8.ofNat (n / 64 % 64 + 128),
        UInt8.ofNat (n % 64 + 128)]
      else [UInt8.ofNat (n / 262144 % 8 + 240), UInt8.ofNat (n / 4096 % 64 + 128),
        UInt8.ofNat (n / 64 % 64 + 128), UInt8.ofNat (n % 64 + 128)] := by
  rw [Char.ofNat, dif_pos valid]
  rfl

theorem utf8EncodeChar_injective {c d : Char} {rest others : List UInt8}
    (same : String.utf8EncodeChar c ++ rest = String.utf8EncodeChar d ++ others) : c = d := by
  have bytes := congrArg List.toByteArray same
  rw [List.toByteArray_append, List.toByteArray_append] at bytes
  have read := congrArg (ByteArray.utf8DecodeChar? · 0) bytes
  simpa only [ByteArray.utf8DecodeChar?_utf8EncodeChar_append, Option.some.injEq] using read

/-- A small byte is a character. -/
theorem utf8EncodeChar_of_small {byte : UInt8} (small : byte.toNat < 0x80) :
    String.utf8EncodeChar (Char.ofNat byte.toNat) = [byte] := by
  rw [utf8EncodeChar_ofNat (.inl (by omega)), if_pos (by omega), UInt8.ofNat_toNat]

theorem toNat_following (n : Nat) : (UInt8.ofNat (n % 64 + 128)).toNat = n % 64 + 128 := by
  rw [UInt8.toNat_ofNat']
  omega

theorem following_bounds (n : Nat) : 0x80 ≤ (UInt8.ofNat (n % 64 + 128)).toNat ∧
    (UInt8.ofNat (n % 64 + 128)).toNat ≤ 0xBF := by
  rw [toNat_following]
  omega

theorem shape_of_utf8EncodeChar {byte : UInt8} {part : List UInt8} {c : Char}
    (encoded : String.utf8EncodeChar c = byte :: part) (large : 0x80 ≤ byte.toNat) :
    Shape byte part := by
  have valid : c.toNat.isValidChar := c.valid
  rw [← Char.ofNat_toNat c, utf8EncodeChar_ofNat valid] at encoded
  generalize c.toNat = n at valid encoded
  unfold Nat.isValidChar at valid
  split_ifs at encoded <;> obtain ⟨first, rfl⟩ := List.cons_eq_cons.mp encoded <;>
    have value := congrArg UInt8.toNat first <;> simp only [UInt8.toNat_ofNat'] at value
  · omega
  · exact .two (by omega) (by omega) (following_bounds n)
  · exact .three (by omega) (by omega) (following_bounds _) (following_bounds n)
      (fun short => by rw [toNat_following]; omega) (fun scalar => by rw [toNat_following]; omega)
  · exact .four (by omega) (by omega) (following_bounds _) (following_bounds _) (following_bounds n)
      (fun short => by rw [toNat_following]; omega) (fun scalar => by rw [toNat_following]; omega)

/-- The character that the first byte and the others of a shape make. -/
def assembled (byte : UInt8) (part : List UInt8) : Char :=
  Char.ofNat (part.foldl (fun n b => 64 * n + b.toNat % 64) (leadingBits part.length byte))

theorem Shape.utf8EncodeChar_assembled {byte : UInt8} {part : List UInt8}
    (shape : Shape byte part) : String.utf8EncodeChar (assembled byte part) = byte :: part := by
  cases shape <;> simp only [assembled, leadingBits, List.foldl, List.length, Nat.pow_eq,
    Nat.reduceAdd, Nat.reduceSub, Nat.reducePow] <;>
    rw [utf8EncodeChar_ofNat (by unfold Nat.isValidChar; omega), if_neg (by omega)]
  on_goal 1 => rw [if_pos (by omega)]
  on_goal 2 => rw [if_neg (by omega), if_pos (by omega)]
  on_goal 3 => rw [if_neg (by omega), if_neg (by omega)]
  -- Each byte is a digit of the number, set off by what its place announces.
  all_goals
    simp only [List.cons.injEq, ← UInt8.toNat_inj, UInt8.toNat_ofNat', and_true]
    omega

/-! ## Announcements -/

theorem Lead.of?_eq_some_iff {byte : UInt8} {lead : Lead} : Lead.of? byte = some lead ↔
    (0xC2 ≤ byte.toNat ∧ byte.toNat ≤ 0xDF ∧ lead = ⟨1, 0x80, 0xBF⟩) ∨
    (byte.toNat = 0xE0 ∧ lead = ⟨2, 0xA0, 0xBF⟩) ∨
    (0xE1 ≤ byte.toNat ∧ byte.toNat ≤ 0xEF ∧ byte.toNat ≠ 0xED ∧ lead = ⟨2, 0x80, 0xBF⟩) ∨
    (byte.toNat = 0xED ∧ lead = ⟨2, 0x80, 0x9F⟩) ∨
    (byte.toNat = 0xF0 ∧ lead = ⟨3, 0x90, 0xBF⟩) ∨
    (0xF1 ≤ byte.toNat ∧ byte.toNat ≤ 0xF3 ∧ lead = ⟨3, 0x80, 0xBF⟩) ∨
    (byte.toNat = 0xF4 ∧ lead = ⟨3, 0x80, 0x8F⟩) := by
  unfold Lead.of?
  simp only [UInt8.le_iff_toNat_le, Bool.and_eq_true, decide_eq_true_eq, beq_iff_eq,
    ← UInt8.toNat_inj, UInt8.reduceToNat]
  repeat' split
  all_goals simp only [Option.some.injEq, reduceCtorEq, false_iff, eq_comm (a := lead)]
  all_goals grind

/-- Bytes that may follow an announcement; the first of them lies between the given bounds. -/
def Continues : UInt8 → UInt8 → List UInt8 → Prop
  | _, _, [] => True
  | low, high, byte :: rest => (low ≤ byte ∧ byte ≤ high) ∧ Continues 0x80 0xBF rest

theorem Continues.of_append {low high : UInt8} {part behind : List UInt8}
    (continues : Continues low high (part ++ behind)) : Continues low high part := by
  induction part generalizing low high with
  | nil => trivial
  | cons byte part ih => exact ⟨continues.1, ih continues.2⟩

theorem Continues.exists_append {low high : UInt8} {part : List UInt8} {count : Nat}
    (continues : Continues low high part) (ordered : low ≤ high) (room : part.length ≤ count) :
    ∃ behind, Continues low high (part ++ behind) ∧ (part ++ behind).length = count := by
  induction count generalizing low high part with
  | zero =>
      obtain rfl := List.length_eq_zero_iff.mp (Nat.le_zero.mp room)
      exact ⟨[], trivial, rfl⟩
  | succ count ih =>
      cases part with
      | nil =>
          have start : Continues 0x80 0xBF [] := trivial
          obtain ⟨behind, whole, size⟩ := ih start (by decide) (Nat.zero_le _)
          exact ⟨low :: behind, ⟨⟨UInt8.le_refl _, ordered⟩, whole⟩, congrArg (· + 1) size⟩
      | cons byte part =>
          obtain ⟨behind, whole, size⟩ := ih continues.2 (by decide) (Nat.le_of_succ_le_succ room)
          exact ⟨behind, ⟨continues.1, whole⟩, congrArg (· + 1) size⟩

theorem continuation_spec (count : Nat) (low high : UInt8) (bytes : List UInt8) :
    continuation count low high bytes <+: bytes ∧
      Continues low high (continuation count low high bytes) ∧
      (continuation count low high bytes).length ≤ count := by
  induction count, low, high, bytes using continuation.induct with
  | case1 | case2 => exact ⟨List.nil_prefix, trivial, Nat.zero_le _⟩
  | case3 low high count byte rest within ih =>
      obtain ⟨start, continues, room⟩ := ih
      rw [continuation, if_pos within]
      exact ⟨List.cons_prefix_cons.mpr ⟨rfl, start⟩, ⟨by simpa using within, continues⟩,
        Nat.succ_le_succ room⟩
  | case4 low high count byte rest outside =>
      rw [continuation, if_neg outside]
      exact ⟨List.nil_prefix, trivial, Nat.zero_le _⟩

/-- No longer sequence at the start of the bytes continues an announcement. -/
theorem Continues.length_le {count : Nat} {low high : UInt8} {part bytes : List UInt8}
    (continues : Continues low high part) (start : part <+: bytes) (room : part.length ≤ count) :
    part.length ≤ (continuation count low high bytes).length := by
  induction count generalizing low high part bytes with
  | zero => exact room
  | succ count ih =>
      match part, bytes with
      | [], _ => exact Nat.zero_le _
      | byte :: part, other :: bytes =>
          obtain ⟨rfl, behind⟩ := List.cons_prefix_cons.mp start
          rw [continuation, if_pos (by simpa using continues.1)]
          exact Nat.succ_le_succ (ih continues.2 behind (Nat.le_of_succ_le_succ room))

theorem shape_iff_lead {byte : UInt8} {part : List UInt8} : Shape byte part ↔
    ∃ lead, Lead.of? byte = some lead ∧ Continues lead.low lead.high part ∧
      part.length = lead.following := by
  constructor
  · intro shape
    simp only [Lead.of?_eq_some_iff]
    cases shape with
    | two lower upper first =>
        exact ⟨_, .inl ⟨lower, upper, rfl⟩, ⟨first, trivial⟩, rfl⟩
    | three lower upper first second short scalar =>
        by_cases least : byte.toNat = 0xE0
        · exact ⟨_, .inr (.inl ⟨least, rfl⟩), ⟨⟨short least, first.2⟩, second, trivial⟩, rfl⟩
        by_cases surrogate : byte.toNat = 0xED
        · exact ⟨_, .inr (.inr (.inr (.inl ⟨surrogate, rfl⟩))),
            ⟨⟨first.1, scalar surrogate⟩, second, trivial⟩, rfl⟩
        · exact ⟨_, .inr (.inr (.inl ⟨by omega, upper, surrogate, rfl⟩)),
            ⟨first, second, trivial⟩, rfl⟩
    | four lower upper first second third short scalar =>
        by_cases least : byte.toNat = 0xF0
        · exact ⟨_, .inr (.inr (.inr (.inr (.inl ⟨least, rfl⟩)))),
            ⟨⟨short least, first.2⟩, second, third, trivial⟩, rfl⟩
        by_cases greatest : byte.toNat = 0xF4
        · exact ⟨_, .inr (.inr (.inr (.inr (.inr (.inr ⟨greatest, rfl⟩))))),
            ⟨⟨first.1, scalar greatest⟩, second, third, trivial⟩, rfl⟩
        · exact ⟨_, .inr (.inr (.inr (.inr (.inr (.inl ⟨by omega, by omega, rfl⟩))))),
            ⟨first, second, third, trivial⟩, rfl⟩
  · rintro ⟨lead, announced, continues, whole⟩
    rcases Lead.of?_eq_some_iff.mp announced with ⟨lower, upper, rfl⟩ | ⟨same, rfl⟩ |
      ⟨lower, upper, other, rfl⟩ | ⟨same, rfl⟩ | ⟨same, rfl⟩ | ⟨lower, upper, rfl⟩ | ⟨same, rfl⟩
    · match part, whole with
      | [a], _ => exact .two lower upper continues.1
    iterate 3
      match part, whole with
      | [a, b], _ =>
        simp only [Continues, UInt8.le_iff_toNat_le, UInt8.reduceToNat, and_true] at continues
        apply Shape.three <;> omega
    iterate 3
      match part, whole with
      | [a, b, c], _ =>
        simp only [Continues, UInt8.le_iff_toNat_le, UInt8.reduceToNat, and_true] at continues
        apply Shape.four <;> omega

/-- **What an announcement lets follow is what characters have there.** -/
theorem begins_iff_lead {byte : UInt8} {part : List UInt8} (large : 0x80 ≤ byte.toNat) :
    Begins (byte :: part) ↔ ∃ lead, Lead.of? byte = some lead ∧
      Continues lead.low lead.high part ∧ part.length ≤ lead.following := by
  constructor
  · rintro ⟨c, behind, encoded⟩
    obtain ⟨lead, announced, continues, whole⟩ :=
      shape_iff_lead.mp (shape_of_utf8EncodeChar encoded.symm large)
    exact ⟨lead, announced, continues.of_append,
      whole ▸ (List.prefix_append part behind).length_le⟩
  · rintro ⟨lead, announced, continues, room⟩
    have ordered : lead.low ≤ lead.high := by
      rcases Lead.of?_eq_some_iff.mp announced with ⟨-, -, rfl⟩ | ⟨-, rfl⟩ | ⟨-, -, -, rfl⟩ |
        ⟨-, rfl⟩ | ⟨-, rfl⟩ | ⟨-, -, rfl⟩ | ⟨-, rfl⟩ <;> decide
    obtain ⟨behind, continues, whole⟩ := continues.exists_append ordered room
    have shape := shape_iff_lead.mpr ⟨lead, announced, continues, whole⟩
    exact ⟨_, behind, shape.utf8EncodeChar_assembled.symm⟩

/-- The characters that large bytes begin with, by what the first of them announces. -/
theorem utf8EncodeChar_prefix_large {byte : UInt8} {rest : List UInt8} {c : Char}
    (large : 0x80 ≤ byte.toNat) (start : String.utf8EncodeChar c <+: byte :: rest) :
    ∃ lead part, Lead.of? byte = some lead ∧ Continues lead.low lead.high part ∧
      part.length = lead.following ∧ part <+: rest := by
  obtain ⟨behind, split⟩ := start
  cases encoded : String.utf8EncodeChar c with
  | nil => exact absurd encoded String.utf8EncodeChar_ne_nil
  | cons first part =>
      rw [encoded] at split
      obtain ⟨rfl, tail⟩ := List.cons_eq_cons.mp split
      obtain ⟨lead, announced, continues, whole⟩ :=
        shape_iff_lead.mp (shape_of_utf8EncodeChar encoded large)
      exact ⟨lead, part, announced, continues, whole, behind, tail⟩

/-- Bytes are broken if too few of them continue what the first one announces. -/
theorem broken_of_lead {byte : UInt8} {found others : List UInt8} (large : 0x80 ≤ byte.toNat)
    (begins : Begins (byte :: found) ∨ found = [])
    (short : ∀ lead, Lead.of? byte = some lead → found.length < lead.following)
    (longest : ∀ lead, Lead.of? byte = some lead → ∀ part, Continues lead.low lead.high part →
      part <+: found ++ others → part.length ≤ lead.following → part.length ≤ found.length) :
    Broken (byte :: found) others where
  nonempty := List.cons_ne_nil _ _
  incomplete := by
    intro c start
    obtain ⟨lead, part, announced, whole, size, behind⟩ := utf8EncodeChar_prefix_large large start
    have few := short lead announced
    have most := longest lead announced part whole behind size.le
    omega
  begins := begins.imp_right fun alone => ⟨byte, congrArg _ alone⟩
  longest := by
    intro more start begun
    cases more with
    | nil => exact Nat.zero_le _
    | cons first part =>
        obtain ⟨rfl, behind⟩ := List.cons_prefix_cons.mp start
        obtain ⟨lead, announced, continues, room⟩ := (begins_iff_lead large).mp begun
        exact Nat.succ_le_succ (longest lead announced part continues behind room)

/-! ## Repairing -/

/-- What is taken from bytes is a character with all its bytes, or a broken sequence. -/
theorem takeCharacter_spec (byte : UInt8) (rest : List UInt8) :
    ∃ used others, byte :: rest = used ++ others ∧ rest.drop (takeCharacter byte rest).2 = others ∧
      (used = String.utf8EncodeChar (takeCharacter byte rest).1 ∨
        Broken used others ∧ (takeCharacter byte rest).1 = replacement) := by
  unfold takeCharacter
  split
  · rename_i small
    exact ⟨[byte], rest, rfl, rfl, .inl (utf8EncodeChar_of_small small).symm⟩
  · rename_i large
    replace large : 0x80 ≤ byte.toNat := Nat.le_of_not_lt large
    split
    · rename_i silent
      have never (lead : Lead) : Lead.of? byte ≠ some lead := fun announced =>
        Option.some_ne_none lead (announced.symm.trans silent)
      exact ⟨[byte], rest, rfl, rfl, .inr ⟨broken_of_lead large (.inr rfl)
        (fun lead announced => absurd announced (never lead))
        fun lead announced => absurd announced (never lead), rfl⟩⟩
    · rename_i lead announced
      have only {other : Lead} (same : Lead.of? byte = some other) : other = lead :=
        Option.some.inj (same.symm.trans announced)
      obtain ⟨⟨others, split⟩, continues, room⟩ :=
        continuation_spec lead.following lead.low lead.high rest
      have longest {part : List UInt8} (whole : Continues lead.low lead.high part)
          (start : part <+: rest) (size : part.length ≤ lead.following) :=
        whole.length_le start size
      generalize continuation lead.following lead.low lead.high rest = found at *
      subst split
      refine ⟨byte :: found, others, rfl, ?_⟩
      dsimp only
      split
      · rename_i whole
        have shape := shape_iff_lead.mpr ⟨lead, announced, continues, whole⟩
        refine ⟨List.drop_left .., .inl ?_⟩
        rw [← shape.utf8EncodeChar_assembled, assembled, whole]
      · rename_i short
        have begins := (begins_iff_lead large).mpr ⟨lead, announced, continues, room⟩
        refine ⟨List.drop_left .., .inr ⟨broken_of_lead large (.inl begins) ?_ ?_, rfl⟩⟩
        · intro other same
          rw [only same]
          exact Nat.lt_of_le_of_ne room short
        · intro other same part whole start size
          rw [only same] at whole size
          exact longest whole start size

theorem repairs_repair (bytes : List UInt8) : Repairs bytes (repair bytes) := by
  induction bytes using repair.induct with
  | case1 =>
      rw [repair]
      exact .nil
  | case2 byte rest taken ih =>
      obtain ⟨used, others, split, behind, reading⟩ := takeCharacter_spec byte rest
      rw [repair, split]
      rw [behind] at ih ⊢
      obtain rfl | ⟨sequence, same⟩ := reading
      · exact .character ih
      · rw [same]
        exact .broken sequence ih

theorem Broken.length_le {bad rest other others : List UInt8} (first : Broken bad rest)
    (second : Broken other others) (same : bad ++ rest = other ++ others) :
    bad.length ≤ other.length := by
  obtain begins | ⟨byte, rfl⟩ := first.begins
  · exact second.longest bad ⟨rest, same⟩ begins
  · exact List.length_pos_iff.mpr second.nonempty

/-- Broken sequences at the start of the same bytes are one. -/
theorem Broken.unique {bad rest other others : List UInt8} (first : Broken bad rest)
    (second : Broken other others) (same : bad ++ rest = other ++ others) : bad = other :=
  (List.append_inj same
    (Nat.le_antisymm (first.length_le second same) (second.length_le first same.symm))).1

theorem Repairs.unique {bytes : List UInt8} {text other : List Char} (first : Repairs bytes text)
    (second : Repairs bytes other) : text = other := by
  induction first generalizing other with
  | nil =>
      generalize empty : ([] : List UInt8) = bytes at second
      cases second with
      | nil => rfl
      | character =>
          exact absurd (List.append_eq_nil_iff.mp empty.symm).1 String.utf8EncodeChar_ne_nil
      | broken sequence => exact absurd (List.append_eq_nil_iff.mp empty.symm).1 sequence.nonempty
  | @character c rest text others ih =>
      generalize split : String.utf8EncodeChar c ++ rest = bytes at second
      cases second with
      | nil => exact absurd (List.append_eq_nil_iff.mp split).1 String.utf8EncodeChar_ne_nil
      | character others =>
          obtain rfl := utf8EncodeChar_injective split
          obtain rfl := List.append_cancel_left split
          rw [ih others]
      | broken sequence => exact absurd ⟨rest, split⟩ (sequence.incomplete c)
  | @broken bad rest text sequence others ih =>
      generalize split : bad ++ rest = bytes at second
      cases second with
      | nil => exact absurd (List.append_eq_nil_iff.mp split).1 sequence.nonempty
      | character => exact absurd ⟨_, split.symm⟩ (sequence.incomplete _)
      | broken further others =>
          obtain rfl := sequence.unique further split
          obtain rfl := List.append_cancel_left split
          rw [ih others]

/-- **The characters of any bytes are those that `Repairs` tells.** -/
theorem repairs_iff {bytes : List UInt8} {text : List Char} :
    Repairs bytes text ↔ repair bytes = text :=
  ⟨(repairs_repair bytes).unique, fun same => same ▸ repairs_repair bytes⟩

example : Repairs [0xE2, 0x82, 0x41] [replacement, 'A'] :=
  repairs_iff.mpr (by simp [repair, takeCharacter, Lead.of?, continuation])

theorem repairs_flatMap (text : List Char) : Repairs (text.flatMap String.utf8EncodeChar) text := by
  induction text with
  | nil => exact .nil
  | cons c text ih => exact .character ih

/-- **The text of any bytes is the one that `Repairs` tells**, well formed or not. -/
theorem repairs_repaired_iff {bytes : ByteArray} {text : String} :
    Repairs bytes.data.toList text.toList ↔ repaired bytes = text := by
  have repairs : Repairs bytes.data.toList (repaired bytes).toList := by
    unfold repaired
    split
    · rename_i text read
      obtain rfl := fromUTF8?_eq_some_iff.mp read
      have encoded := repairs_flatMap text.toList
      rwa [← String.utf8Encode_toList, List.utf8Encode, List.data_toByteArray, List.toList_toArray]
    · exact repairs_iff.mpr (String.toList_ofList).symm
  constructor
  · intro others
    exact String.toList_inj.mp (repairs.unique others)
  · rintro rfl
    exact repairs

/-- Well-formed bytes are not changed. -/
theorem toByteArray_repaired {bytes : ByteArray} (valid : bytes.IsValidUTF8) :
    (repaired bytes).toByteArray = bytes := by
  have read := fromUTF8?_eq_some_iff.mpr (rfl : (String.ofByteArray bytes valid).toByteArray = _)
  rw [repaired, read]

end PatternRefinement.Text
