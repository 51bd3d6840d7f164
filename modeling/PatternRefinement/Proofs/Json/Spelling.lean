import Mathlib.Data.List.TakeWhile
import PatternRefinement.Proofs.Json.ReadBack

/-!
# How the members of an object are spelled

A value does not tell how it was spelled.  For most values this does not matter, but an integer may
only be spelled in one way, so here the members of an object are read together with their spelling.

## Main Definitions

* `Spelled` — a value, and the text that it was read from
* `spelledMembers?` — the members of the object that is the whole of a text, as they are spelled

## Main Statements

* `Numeral.exists_of_read?` — the parts of a numeral stand one after the other where it was read
* `spelling_eq_iff` — digits spell the natural number that they denote, and nothing else spells it
* `readBytes?_object_iff` — the members that are read with their spelling are those of the object

## Design Notes

The readers of containers do not look at what their items are, so the same reader is given one item
reader that keeps the spelling and one that does not (`items_map`).
-/

namespace PatternRefinement.Json

open Text (Reader digitsValue)

/-! ## The parts of a numeral -/

namespace Numeral

/-- What is known of a numeral that was read: of its digits before the point, and of the tail behind
them, which holds its fraction and its exponent. -/
structure Parts (numeral : Numeral) (tail : List Char) : Prop where
  whole_ne_nil : numeral.whole ≠ []
  whole_digits : ∀ c ∈ numeral.whole, c.isDigit = true
  zero_alone : numeral.whole.head? = some '0' → numeral.whole = ['0']
  plain_iff : numeral.fraction = [] ∧ numeral.exponent? = none ↔ tail = []
  /-- The tail does not begin with a digit. -/
  tail_noDigit : NoDigit tail

theorem eq_of_digits? {text run rest : List Char} (h : digits? text = some (run, rest)) :
    text = run ++ rest ∧ run ≠ [] ∧ ∀ c ∈ run, c.isDigit = true := by
  unfold digits? at h
  dsimp only at h
  split at h
  · cases h
  · rename_i nonempty
    obtain ⟨rfl, rfl⟩ := Prod.mk.inj (Option.some.inj h)
    refine ⟨List.takeWhile_append_dropWhile.symm, ?_, fun c mem => List.mem_takeWhile_imp mem⟩
    exact fun empty => nonempty (List.isEmpty_iff.mpr empty)

theorem eq_of_wholePart? {text whole rest : List Char} (h : wholePart? text = some (whole, rest)) :
    text = whole ++ rest ∧ whole ≠ [] ∧ (∀ c ∈ whole, c.isDigit = true) ∧
      (whole.head? = some '0' → whole = ['0']) := by
  unfold wholePart? at h
  split at h
  · cases h
  · rename_i other
    obtain ⟨split, nonempty, digits⟩ := eq_of_digits? h
    refine ⟨split, nonempty, digits, fun zero => ?_⟩
    cases whole with
    | nil => cases zero
    | cons first others =>
        obtain rfl : first = '0' := Option.some.inj zero
        cases others with
        | nil => rfl
        | cons c others => exact absurd h (other c others rest)

/-- A point comes with digits behind it, and without a point nothing is read. -/
theorem eq_of_fractionPart? {text fraction rest : List Char}
    (h : fractionPart? text = some (fraction, rest)) : text = fractionText fraction ++ rest := by
  unfold fractionPart? at h
  split at h
  · obtain ⟨split, nonempty, -⟩ := eq_of_digits? h
    rw [fractionText, if_neg (by simpa using nonempty), split]
    rfl
  · obtain ⟨rfl, rfl⟩ := Prod.mk.inj (Option.some.inj h)
    rfl

theorem noDigit_nil : NoDigit [] := fun _ none => absurd none (Option.not_mem_none _)

/-- An exponent begins with its mark, and without a mark nothing is read. -/
theorem exists_of_exponentPart? {text rest : List Char} {exponent? : Option Int}
    (h : exponentPart? text = some (exponent?, rest)) :
    ∃ tail, text = tail ++ rest ∧ (exponent? = none ↔ tail = []) ∧ NoDigit tail := by
  have powered {behind : List Char} {denoted : List Char × List Char → Option Int × List Char}
      (shape : ∀ found, (denoted found).1 ≠ none ∧ (denoted found).2 = found.2)
      (h : (digits? behind).map denoted = some (exponent?, rest)) :
      exponent? ≠ none ∧ ∃ run, behind = run ++ rest := by
    obtain ⟨⟨run, last⟩, read, same⟩ := Option.map_eq_some_iff.mp h
    obtain ⟨power, last_eq⟩ := shape (run, last)
    rw [same] at power last_eq
    obtain rfl : rest = last := last_eq
    exact ⟨power, run, (eq_of_digits? read).1⟩
  unfold exponentPart? at h
  split at h
  · obtain ⟨rfl, rfl⟩ := Prod.mk.inj (Option.some.inj h)
    exact ⟨[], rfl, iff_of_true rfl rfl, noDigit_nil⟩
  · rename_i mark behind
    split at h
    · rename_i marks
      obtain ⟨power, sign, run, rfl⟩ :
          exponent? ≠ none ∧ ∃ sign run, behind = sign ++ (run ++ rest) := by
        split at h
        · obtain ⟨power, run, rfl⟩ := powered (fun _ => ⟨Option.some_ne_none _, rfl⟩) h
          exact ⟨power, ['-'], run, rfl⟩
        · obtain ⟨power, run, rfl⟩ := powered (fun _ => ⟨Option.some_ne_none _, rfl⟩) h
          exact ⟨power, ['+'], run, rfl⟩
        · obtain ⟨power, run, rfl⟩ := powered (fun _ => ⟨Option.some_ne_none _, rfl⟩) h
          exact ⟨power, [], run, rfl⟩
      refine ⟨mark :: (sign ++ run), by rw [List.cons_append, List.append_assoc],
        iff_of_false power (List.cons_ne_nil _ _), noDigit_cons ?_⟩
      rcases marks with rfl | rfl <;> rfl
    · obtain ⟨rfl, rfl⟩ := Prod.mk.inj (Option.some.inj h)
      exact ⟨[], rfl, iff_of_true rfl rfl, noDigit_nil⟩

theorem exists_of_readUnsigned? {negative : Bool} {text rest : List Char} {numeral : Numeral}
    (h : readUnsigned? negative text = some (numeral, rest)) : numeral.negative = negative ∧
      ∃ tail, text = numeral.whole ++ (tail ++ rest) ∧ numeral.Parts tail := by
  unfold readUnsigned? at h
  split at h
  · cases h
  · rename_i whole behind read
    obtain ⟨rfl, nonempty, digits, alone⟩ := eq_of_wholePart? read
    split at h
    · cases h
    · rename_i fraction behind read
      obtain rfl := eq_of_fractionPart? read
      split at h
      · cases h
      · rename_i exponent? last read
        obtain ⟨tail, rfl, empty, noDigit⟩ := exists_of_exponentPart? read
        obtain ⟨rfl, rfl⟩ := Prod.mk.inj (Option.some.inj h)
        refine ⟨rfl, fractionText fraction ++ tail, by rw [List.append_assoc],
          nonempty, digits, alone, ?_, ?_⟩
        · rw [List.append_eq_nil_iff, ← empty]
          cases fraction <;> simp [fractionText]
        · cases fraction with
          | nil => exact noDigit
          | cons c others => exact noDigit_cons rfl

/-- **The parts of a numeral stand one after the other where it was read.** -/
theorem exists_of_read? {text rest : List Char} {numeral : Numeral}
    (h : read? text = some (numeral, rest)) : ∃ tail,
      text = (if numeral.negative then ['-'] else []) ++ (numeral.whole ++ (tail ++ rest)) ∧
        numeral.Parts tail := by
  unfold read? at h
  split at h
  · obtain ⟨negative, tail, rfl, parts⟩ := exists_of_readUnsigned? h
    exact ⟨tail, by rw [negative]; rfl, parts⟩
  · obtain ⟨negative, tail, rfl, parts⟩ := exists_of_readUnsigned? h
    exact ⟨tail, by rw [negative]; rfl, parts⟩

/-! ## Natural numbers -/

/-- The digits before the point are those of the number that they denote. -/
theorem Parts.whole_eq {numeral : Numeral} {tail : List Char} (parts : numeral.Parts tail) :
    numeral.whole = Nat.toDigits 10 (digitsValue numeral.whole) := by
  by_cases zero : numeral.whole.head? = some '0'
  · rw [parts.zero_alone zero]
    rfl
  · exact (Text.toDigits_digitsValue parts.whole_ne_nil parts.whole_digits zero).symm

/-- A numeral denotes a natural number if it has nothing but the digits of the number. -/
theorem Parts.value?_eq_natural_iff {numeral : Numeral} {tail : List Char}
    (parts : numeral.Parts tail) {n : Nat} (room : n < 2 ^ 64) :
    numeral.value? = some (.integer n) ↔
      numeral.negative = false ∧ tail = [] ∧ numeral.whole = Nat.toDigits 10 n := by
  rw [← parts.plain_iff]
  constructor
  · intro denotes
    have noDouble : numeral.double?.map Number.double ≠ some (.integer n) := by
      intro double
      obtain ⟨x, -, same⟩ := Option.map_eq_some_iff.mp double
      cases same
    unfold value? at denotes
    dsimp only at denotes
    split at denotes
    · rename_i plain
      split at denotes
      · split at denotes
        · rename_i positive
          obtain same := Number.integer.inj (Option.some.inj denotes)
          simp only [Bool.and_eq_true, decide_eq_true_eq] at positive
          omega
        · exact absurd denotes noDouble
      · split at denotes
        · rename_i unsigned _
          have same : digitsValue numeral.whole = n :=
            Int.ofNat_inj.mp (Number.integer.inj (Option.some.inj denotes))
          refine ⟨Bool.eq_false_iff.mpr unsigned, by simpa using plain, ?_⟩
          rw [← same]
          exact parts.whole_eq
        · exact absurd denotes noDouble
    · exact absurd denotes noDouble
  · rintro ⟨unsigned, ⟨fraction, exponent⟩, whole⟩
    have shape : numeral = ofInt n := by
      rw [ofInt, Int.natAbs_natCast, ← whole]
      cases numeral
      simp_all
    rw [shape, value?_ofInt ⟨by omega, by omega⟩]

/-- **A natural number is read where its digits stand, and nowhere else.** -/
theorem natural_iff {text rest : List Char} {numeral : Numeral}
    (h : read? text = some (numeral, rest)) {n : Nat} (room : n < 2 ^ 64) :
    numeral.value? = some (.integer n) ↔ text = Nat.toDigits 10 n ++ rest := by
  obtain ⟨tail, rfl, parts⟩ := exists_of_read? h
  rw [parts.value?_eq_natural_iff room]
  constructor
  · rintro ⟨unsigned, rfl, whole⟩
    rw [unsigned, whole]
    rfl
  · intro same
    rw [← List.append_assoc, ← List.append_assoc, List.append_cancel_right_eq] at same
    have digits : ∀ c ∈ (if numeral.negative then ['-'] else []) ++ numeral.whole ++ tail,
        c.isDigit = true := by
      rw [same]
      exact fun c => Text.isDigit_of_mem_toDigits
    have unsigned : numeral.negative = false := by
      refine Bool.eq_false_iff.mpr fun negative => ?_
      rw [negative] at digits
      exact absurd (digits '-' List.mem_cons_self) (by decide)
    have empty : tail = [] := by
      cases tail with
      | nil => rfl
      | cons c others =>
          have digit := digits c (List.mem_append_right _ List.mem_cons_self)
          cases digit.symm.trans (parts.tail_noDigit c rfl)
    subst empty
    rw [unsigned, List.append_nil] at same
    exact ⟨unsigned, rfl, same⟩

end Numeral

/-! ## Values with their spelling -/

/-- A value, and the text that it was read from. -/
structure Spelled where
  spelling : List Char
  value : Value

/-- Reads a value and keeps what was read, without the blanks in front of it. -/
def spelled (depth : Nat) : Reader Spelled := fun text =>
  (value depth text).map fun (v, rest) =>
    (⟨(skipBlanks text).take ((skipBlanks text).length - rest.length), v⟩, rest)

/-- The members of the object that is the whole of a text, as they are spelled. -/
def spelledMembers? (text : String) : Option (List (String × Spelled)) :=
  match skipBlanks text.toList with
  | '{' :: rest =>
    match itemsOrNone (member (spelled (maxDepth - 1))) '}' rest with
    | some (members, behind) => if (skipBlanks behind).isEmpty then some members else none
    | none => none
  | _ => none

/-- The same for the whole of some bytes, which have to be well-formed text. -/
def spelledMembersOfBytes? (bytes : ByteArray) : Option (List (String × Spelled)) :=
  (String.fromUTF8? bytes).bind spelledMembers?

/-! ### Natural numbers -/

/-- What is read as a number is read by the reader of numbers. -/
theorem number_of_value {depth : Nat} {text rest : List Char} {n : Number}
    (h : value depth text = some (.number n, rest)) :
    number (skipBlanks text) = some (.number n, rest) := by
  rw [value.eq_def] at h
  dsimp only at h
  split at h
  case h_1 => cases h
  case h_2 => cases value_of_word h
  case h_3 => cases value_of_word h
  case h_4 => cases value_of_word h
  case h_5 =>
    obtain ⟨found, -, same⟩ := Option.map_eq_some_iff.mp h
    cases same
  case h_6 =>
    split at h
    · cases h
    · obtain ⟨found, -, same⟩ := Option.map_eq_some_iff.mp h
      cases same
  case h_7 =>
    split at h
    · cases h
    · obtain ⟨found, -, same⟩ := Option.map_eq_some_iff.mp h
      cases same
  case h_8 =>
    rename_i c behind _ _ _ _ _ _ same
    rw [same]
    exact h

theorem value_skipBlanks (depth : Nat) (text : List Char) :
    value depth (skipBlanks text) = value depth text := by
  have skip := skips_value depth (text.takeWhile isSpace) (text.dropWhile isSpace) fun c mem =>
    List.mem_takeWhile_imp mem
  rw [List.takeWhile_append_dropWhile] at skip
  exact skip.symm

/-- A text that begins with the digits of a number is read by the reader of numbers. -/
theorem number_of_digits {depth n : Nat} {text rest : List Char}
    (h : skipBlanks text = Nat.toDigits 10 n ++ rest) :
    value depth text = number (skipBlanks text) := by
  obtain ⟨c, others, digits⟩ := List.exists_cons_of_ne_nil (Nat.toDigits_ne_nil (b := 10) (n := n))
  have digit : c.isDigit = true :=
    Text.isDigit_of_mem_toDigits (n := n) (digits ▸ List.mem_cons_self)
  rw [← value_skipBlanks, h, digits, List.cons_append]
  exact value_numeral (by rw [beginsNumeral, digit, Bool.or_true]) depth _

/-- Where digits spell a value, the reader of numbers has read it. -/
theorem number_of_spelling {depth n : Nat} {text rest : List Char} {found : Spelled}
    (h : spelled depth text = some (found, rest)) (digits : found.spelling = Nat.toDigits 10 n) :
    number (skipBlanks text) = some (found.value, rest) := by
  obtain ⟨⟨v, last⟩, read, same⟩ := Option.map_eq_some_iff.mp h
  obtain ⟨rfl, rfl⟩ := Prod.mk.inj same
  have split := List.take_append_drop ((skipBlanks text).length - last.length) (skipBlanks text)
  dsimp only at digits ⊢
  rw [digits] at split
  rw [← number_of_digits split.symm, read]

/-- Digits spell a number, however great it is. -/
theorem exists_number_of_spelling {depth n : Nat} {text rest : List Char} {found : Spelled}
    (h : spelled depth text = some (found, rest)) (digits : found.spelling = Nat.toDigits 10 n) :
    ∃ m, found.value = .number m := by
  have read := number_of_spelling h digits
  unfold number at read
  split at read
  · cases read
  · obtain ⟨m, -, same⟩ := Option.map_eq_some_iff.mp read
    exact ⟨m, (Prod.mk.inj same).1.symm⟩

/-- **Digits spell the natural number that they denote, and nothing else spells it.** -/
theorem spelling_eq_iff {depth : Nat} {text rest : List Char} {found : Spelled}
    (h : spelled depth text = some (found, rest)) {n : Nat} (room : n < 2 ^ 64) :
    found.spelling = Nat.toDigits 10 n ↔ found.value = .number (.integer n) := by
  obtain ⟨⟨v, last⟩, read, same⟩ := Option.map_eq_some_iff.mp h
  obtain ⟨rfl, rfl⟩ := Prod.mk.inj same
  dsimp only
  constructor
  · intro spelling
    have read := number_of_spelling h spelling
    rw [number] at read
    cases found : Numeral.read? (skipBlanks text) with
    | none => simp [found] at read
    | some result =>
        obtain ⟨numeral, behind⟩ := result
        simp only [found] at read
        obtain ⟨m, denoted, same⟩ := Option.map_eq_some_iff.mp read
        obtain ⟨rfl, rfl⟩ := Prod.mk.inj same
        -- What was read is what stands before the rest, so it is the digits.
        obtain ⟨tail, text_eq, -⟩ := Numeral.exists_of_read? found
        rw [← List.append_assoc, ← List.append_assoc] at text_eq
        rw [text_eq, List.length_append, Nat.add_sub_cancel, List.take_left] at spelling
        rw [spelling] at text_eq
        rw [(Numeral.natural_iff found room).mpr text_eq] at denoted
        rw [Option.some.inj denoted]
  · rintro rfl
    have number_read := number_of_value read
    unfold number at number_read
    split at number_read
    · cases number_read
    · rename_i numeral behind found
      obtain ⟨m, denoted, same⟩ := Option.map_eq_some_iff.mp number_read
      cases same
      rw [(Numeral.natural_iff found room).mp denoted, List.length_append, Nat.add_sub_cancel,
        List.take_left]

/-! ## Members with their spelling -/

section Map

variable {α β : Type} {item : Reader α} {plain : Reader β} {f : α → β} {close : Char}

/-- A reader that makes something of each item reads the items and makes it of them. -/
theorem items_map (same : ∀ text, plain text = (item text).map fun x => (f x.1, x.2))
    (text : List Char) :
    items plain close text = (items item close text).map fun x => (x.1.map f, x.2) := by
  fun_induction items item close text with
  | case1 text none =>
      rw [items, same, none]
      rfl
  | case2 text first rest found ended =>
      rw [items, same, found]
      simp only [Option.map_some, ended, Option.map_none]
  | case3 text first rest found behind next =>
      rw [items, same, found]
      simp only [Option.map_some, next, ↓reduceIte, List.map_cons, List.map_nil]
  | case4 text first rest found behind shorter next other ih =>
      rw [items, same, found]
      simp only [Option.map_some, next, if_neg other, ↓reduceIte, if_pos shorter, ih,
        Option.map_map]
      rfl
  | case5 text first rest found behind longer next other =>
      rw [items, same, found]
      simp only [Option.map_some, next, if_neg other, ↓reduceIte, if_neg longer, Option.map_none]
  | case6 text first rest found c behind next other comma =>
      rw [items, same, found]
      simp only [Option.map_some, next, if_neg other, if_neg comma, Option.map_none]

theorem itemsOrNone_map (same : ∀ text, plain text = (item text).map fun x => (f x.1, x.2))
    (text : List Char) : itemsOrNone plain close text =
      (itemsOrNone item close text).map fun x => (x.1.map f, x.2) := by
  unfold itemsOrNone
  split
  · split
    · rfl
    · exact items_map same _
  · rfl

theorem member_map (same : ∀ text, plain text = (item text).map fun x => (f x.1, x.2))
    (text : List Char) :
    member plain text = (member item text).map fun x => ((x.1.1, f x.1.2), x.2) := by
  unfold member
  split
  · rfl
  · split
    · rw [same, Option.map_map, Option.map_map]
      rfl
    · rfl

end Map

theorem value_eq_map_spelled (depth : Nat) (text : List Char) :
    value depth text = (spelled depth text).map fun x => (x.1.value, x.2) := by
  rw [spelled, Option.map_map]
  exact (Option.map_id' ..).symm

/-- A member as a value has it. -/
def Spelled.plain (member : String × Spelled) : String × Value := (member.1, member.2.value)

/-- The members of an object are those that are read with their spelling. -/
theorem members_eq_map_spelled (depth : Nat) (text : List Char) :
    itemsOrNone (member (value depth)) '}' text =
      (itemsOrNone (member (spelled depth)) '}' text).map fun x => (x.1.map Spelled.plain, x.2) :=
  itemsOrNone_map (member_map (value_eq_map_spelled depth)) text

/-- What is read as an object begins with a brace. -/
theorem members_of_value {depth : Nat} {text rest : List Char} {members : List (String × Value)}
    (h : value (depth + 1) text = some (.object members, rest)) :
    ∃ behind, skipBlanks text = '{' :: behind ∧
      itemsOrNone (member (value depth)) '}' behind = some (members, rest) := by
  rw [value.eq_def] at h
  dsimp only at h
  split at h
  case h_1 => cases h
  case h_2 => cases value_of_word h
  case h_3 => cases value_of_word h
  case h_4 => cases value_of_word h
  case h_5 =>
    obtain ⟨found, -, same⟩ := Option.map_eq_some_iff.mp h
    cases same
  case h_6 =>
    obtain ⟨found, -, same⟩ := Option.map_eq_some_iff.mp h
    cases same
  case h_7 behind opened =>
    obtain ⟨found, read, same⟩ := Option.map_eq_some_iff.mp h
    cases same
    exact ⟨behind, opened, read⟩
  case h_8 =>
    unfold number at h
    split at h
    · cases h
    · obtain ⟨found, -, same⟩ := Option.map_eq_some_iff.mp h
      cases same

theorem read?_object_iff {text : String} {members : List (String × Value)} :
    read? text = some (.object members) ↔
      ∃ found, spelledMembers? text = some found ∧ found.map Spelled.plain = members := by
  have depth : maxDepth = 126 + 1 := rfl
  constructor
  · intro h
    unfold read? at h
    split at h
    · rename_i v rest read
      split at h
      · rename_i ended
        obtain rfl := Option.some.inj h
        obtain ⟨behind, opened, inside⟩ := members_of_value read
        rw [members_eq_map_spelled] at inside
        obtain ⟨⟨found, last⟩, spelled_read, same⟩ := Option.map_eq_some_iff.mp inside
        obtain ⟨rfl, rfl⟩ := Prod.mk.inj same
        refine ⟨found, ?_, rfl⟩
        unfold spelledMembers?
        rw [opened, depth]
        simp only [Nat.add_sub_cancel, spelled_read, ended, ↓reduceIte]
      · cases h
    · cases h
  · rintro ⟨found, h, rfl⟩
    unfold spelledMembers? at h
    split at h
    · rename_i behind opened
      split at h
      · rename_i members last spelled_read
        split at h
        · rename_i ended
          obtain rfl := Option.some.inj h
          rw [depth, Nat.add_sub_cancel] at spelled_read
          rw [read?, ← value_skipBlanks, opened, depth, value_brace, members_eq_map_spelled,
            spelled_read]
          simp only [Option.map_some, ended, ↓reduceIte]
        · cases h
      · cases h
    · cases h

/-- **The members that are read with their spelling are those of the object.** -/
theorem readBytes?_object_iff {bytes : ByteArray} {members : List (String × Value)} :
    readBytes? bytes = some (.object members) ↔
      ∃ found, spelledMembersOfBytes? bytes = some found ∧ found.map Spelled.plain = members := by
  rw [readBytes?, spelledMembersOfBytes?]
  cases String.fromUTF8? bytes with
  | none => simp
  | some text => exact read?_object_iff

/-- Each member that was read has a value that was read with its spelling. -/
theorem exists_spelled_of_mem {bytes : ByteArray} {found : List (String × Spelled)}
    (h : spelledMembersOfBytes? bytes = some found) {member : String × Spelled}
    (mem : member ∈ found) : ∃ text rest, spelled (maxDepth - 1) text = some (member.2, rest) := by
  have each (text : List Char) (v : Spelled) (rest : List Char)
      (read : spelled (maxDepth - 1) text = some (v, rest)) :
      ∃ text rest, spelled (maxDepth - 1) text = some (v, rest) := ⟨text, rest, read⟩
  obtain ⟨text, -, read⟩ := Option.bind_eq_some_iff.mp h
  unfold spelledMembers? at read
  split at read
  · split at read
    · rename_i members behind inside
      split at read
      · obtain rfl := Option.some.inj read
        exact itemsOrNone_each (fun _ _ _ => member_each each) inside member mem
      · cases read
    · cases read
  · cases read

/-- Where members were read, digits spell the natural number that they denote, and nothing else
does. -/
theorem spelling_of_mem {bytes : ByteArray} {found : List (String × Spelled)}
    (h : spelledMembersOfBytes? bytes = some found) {member : String × Spelled}
    (mem : member ∈ found) {n : Nat} (room : n < 2 ^ 64) :
    member.2.spelling = Nat.toDigits 10 n ↔ member.2.value = .number (.integer n) := by
  obtain ⟨text, rest, read⟩ := exists_spelled_of_mem h mem
  exact spelling_eq_iff read room

end PatternRefinement.Json
