import PatternRefinement.Json.Printer
import PatternRefinement.Json.Numeral
import PatternRefinement.Proofs.Number.Shortest
import PatternRefinement.Proofs.Text.Digits

/-!
# The numbers of JSON, written and read again

## Main Definitions

* `Numeral.Proper` — a numeral that the grammar has, with its text `Numeral.written`
* `Number.Fits` — an integer that 64 bits hold, or a double that is no infinity
* `Number.reread` — the number that is read where a number was written

## Main Statements

* `Numeral.read?_written` — the text of a proper numeral is read as that numeral
* `Number.exists_written` — every number that fits is written as a numeral that can be read again
* `Number.reread_integer` — an integer is read as itself
* `Numeral.fits_of_value?` — every number that is read fits

## Design Notes

A double need not be read as itself, because the reader rounds more than once; `reread` is what
comes out. What matters is that something does: the greatest doubles are so close to the bound
that the rounding of the reader could have lifted one of them over it.
-/

namespace PatternRefinement.Json

open Text (digitsValue)

namespace Numeral

/-! ## The text of a numeral -/

/-- A numeral of the grammar: digits on both sides, and no zero before other digits. -/
structure Proper (numeral : Numeral) : Prop where
  whole_ne_nil : numeral.whole ≠ []
  whole_digits : ∀ c ∈ numeral.whole, c.isDigit = true
  zero_alone : numeral.whole.head? = some '0' → numeral.whole = ['0']
  fraction_digits : ∀ c ∈ numeral.fraction, c.isDigit = true

/-- The exponent behind a numeral, with its sign. -/
def exponentText : Option Int → List Char
  | none => []
  | some k => 'e' :: (if 0 ≤ k then '+' else '-') :: Nat.toDigits 10 k.natAbs

/-- The point and the digits behind it. -/
def fractionText (fraction : List Char) : List Char :=
  if fraction.isEmpty then [] else '.' :: fraction

/-- A numeral as it is written. -/
def written (numeral : Numeral) : List Char :=
  (if numeral.negative then ['-'] else []) ++
    (numeral.whole ++ (fractionText numeral.fraction ++ exponentText numeral.exponent?))

/-- A text that does not go on with digits. -/
def NoDigit (rest : List Char) : Prop := ∀ c ∈ rest.head?, c.isDigit = false

/-- A text that a numeral before it does not go on with. -/
structure Stops (rest : List Char) : Prop where
  noDigit : NoDigit rest
  head?_ne : ∀ c ∈ rest.head?, c ≠ '.' ∧ c ≠ 'e' ∧ c ≠ 'E'

theorem stops_nil : Stops [] := ⟨nofun, nofun⟩

theorem stops_cons {c : Char} {rest : List Char} (digit : c.isDigit = false) (point : c ≠ '.')
    (lower : c ≠ 'e') (upper : c ≠ 'E') : Stops (c :: rest) := by
  constructor
  · rintro d ⟨⟩
    exact digit
  · rintro d ⟨⟩
    exact ⟨point, lower, upper⟩

theorem noDigit_cons {c : Char} {rest : List Char} (digit : c.isDigit = false) :
    NoDigit (c :: rest) := by
  rintro d ⟨⟩
  exact digit

/-! ## Reading it -/

theorem digits?_append {run rest : List Char} (nonempty : run ≠ [])
    (digits : ∀ c ∈ run, c.isDigit = true) (stops : NoDigit rest) :
    digits? (run ++ rest) = some (run, rest) := by
  have taken : rest.takeWhile Char.isDigit = [] := by
    cases rest with
    | nil => rfl
    | cons c rest => rw [List.takeWhile_cons, stops c rfl, if_neg Bool.false_ne_true]
  have dropped : rest.dropWhile Char.isDigit = rest := by
    cases rest with
    | nil => rfl
    | cons c rest => rw [List.dropWhile_cons, stops c rfl, if_neg Bool.false_ne_true]
  have notEmpty : run.isEmpty = false := by simpa using nonempty
  rw [digits?, List.takeWhile_append_of_pos digits, List.dropWhile_append_of_pos digits, taken,
    dropped, List.append_nil]
  simp only [notEmpty, Bool.false_eq_true, ↓reduceIte]

theorem wholePart?_append {whole rest : List Char} (nonempty : whole ≠ [])
    (digits : ∀ c ∈ whole, c.isDigit = true) (alone : whole.head? = some '0' → whole = ['0'])
    (stops : NoDigit rest) : wholePart? (whole ++ rest) = some (whole, rest) := by
  rw [wholePart?, digits?_append nonempty digits stops]
  split
  · rename_i c others behind same
    obtain ⟨rfl, rfl⟩ := Prod.mk.inj (Option.some.inj same)
    exact absurd (alone rfl) (by simp)
  · rfl

theorem noDigit_exponentText {exponent? : Option Int} {rest : List Char} (stops : Stops rest) :
    NoDigit (exponentText exponent? ++ rest) := by
  cases exponent? with
  | none => exact stops.noDigit
  | some k => exact noDigit_cons rfl

theorem fractionPart?_append {fraction : List Char} {exponent? : Option Int} {rest : List Char}
    (digits : ∀ c ∈ fraction, c.isDigit = true) (stops : Stops rest) :
    fractionPart? (fractionText fraction ++ (exponentText exponent? ++ rest)) =
      some (fraction, exponentText exponent? ++ rest) := by
  cases fraction with
  | nil =>
      -- What stands behind the digits is no point.
      show fractionPart? (exponentText exponent? ++ rest) =
        some ([], exponentText exponent? ++ rest)
      cases exponent? with
      | some k => rfl
      | none =>
          cases rest with
          | nil => rfl
          | cons c rest =>
              have point := (stops.head?_ne c rfl).1
              rw [exponentText, List.nil_append, fractionPart?]
              rintro behind ⟨⟩
              exact point rfl
  | cons c others =>
      exact digits?_append (List.cons_ne_nil _ _) digits (noDigit_exponentText stops)

theorem exponentPart?_append {exponent? : Option Int} {rest : List Char} (stops : Stops rest) :
    exponentPart? (exponentText exponent? ++ rest) = some (exponent?, rest) := by
  cases exponent? with
  | none =>
      cases rest with
      | nil => rfl
      | cons c rest =>
          obtain ⟨-, lower, upper⟩ := stops.head?_ne c rfl
          rw [exponentText, List.nil_append]
          exact if_neg (not_or.mpr ⟨lower, upper⟩)
  | some k =>
      have read : digits? (Nat.toDigits 10 k.natAbs ++ rest) =
          some (Nat.toDigits 10 k.natAbs, rest) :=
        digits?_append Nat.toDigits_ne_nil (fun _ => Text.isDigit_of_mem_toDigits) stops.noDigit
      rcases le_or_gt 0 k with nonneg | negative
      · rw [exponentText, if_pos nonneg]
        show (digits? (Nat.toDigits 10 k.natAbs ++ rest)).map _ = _
        rw [read, Option.map_some]
        dsimp only
        rw [Text.digitsValue_toDigits, Int.natAbs_of_nonneg nonneg]
      · rw [exponentText, if_neg (not_le.mpr negative)]
        show (digits? (Nat.toDigits 10 k.natAbs ++ rest)).map _ = _
        rw [read, Option.map_some]
        dsimp only
        rw [Text.digitsValue_toDigits, Int.ofNat_natAbs_of_nonpos negative.le, neg_neg]

/-- **The text of a proper numeral is read as that numeral.** -/
theorem read?_written {numeral : Numeral} {rest : List Char} (proper : numeral.Proper)
    (stops : Stops rest) : read? (numeral.written ++ rest) = some (numeral, rest) := by
  obtain ⟨negative, whole, fraction, exponent?⟩ := numeral
  have noDigit : NoDigit (fractionText fraction ++ (exponentText exponent? ++ rest)) := by
    cases fraction with
    | nil => exact noDigit_exponentText stops
    | cons c others => exact noDigit_cons rfl
  have unsigned : readUnsigned? negative
      (whole ++ (fractionText fraction ++ (exponentText exponent? ++ rest))) =
        some (⟨negative, whole, fraction, exponent?⟩, rest) := by
    rw [readUnsigned?, wholePart?_append proper.whole_ne_nil proper.whole_digits proper.zero_alone
      noDigit]
    dsimp only
    rw [fractionPart?_append proper.fraction_digits stops]
    dsimp only
    rw [exponentPart?_append stops]
  cases negative with
  | true =>
      rw [written, if_pos rfl, List.append_assoc, List.append_assoc, List.append_assoc]
      exact unsigned
  | false =>
      rw [written, if_neg Bool.false_ne_true, List.nil_append, List.append_assoc,
        List.append_assoc]
      -- The digits of a numeral do not begin with a sign.
      cases whole with
      | nil => exact absurd rfl proper.whole_ne_nil
      | cons c others =>
          have digit := proper.whole_digits c List.mem_cons_self
          rw [List.cons_append, read?]
          · exact unsigned
          · rintro behind ⟨⟩
            exact absurd digit (by decide)

/-! ## The significand -/

theorem joined_digits (significand : Nat) (c : Char) (rest : List Char) :
    10 ^ (c :: rest).length * significand + digitsValue (c :: rest) =
      10 ^ rest.length * (10 * significand + Text.digitValue c) + digitsValue rest := by
  have split := Text.digitsValue_append [c] rest
  rw [List.singleton_append] at split
  rw [split, List.length_cons, show digitsValue [c] = 10 * 0 + Text.digitValue c from rfl]
  ring

/-- Digits before the point all enter the significand while there is room. -/
theorem foldl_addWhole {digits : List Char} {significand : Nat} {power : Int}
    (room : 10 ^ digits.length * significand + digitsValue digits < significandBound) :
    digits.foldl Accumulation.addWhole ⟨significand, power, false⟩ =
      ⟨10 ^ digits.length * significand + digitsValue digits, power, false⟩ := by
  induction digits generalizing significand with
  | nil =>
      rw [List.foldl_nil, List.length_nil, Nat.pow_zero, Nat.one_mul]
      rfl
  | cons c rest ih =>
      have same := joined_digits significand c rest
      rw [same] at room
      have next : 10 * significand + Text.digitValue c < significandBound := by
        refine lt_of_le_of_lt (le_trans ?_ (Nat.le_add_right _ _)) room
        exact Nat.le_mul_of_pos_left _ (Nat.pow_pos (by decide))
      rw [List.foldl_cons, same, ← ih room]
      congr 1
      exact if_pos (by simpa using next)

/-- Digits behind the point all enter the significand while there is room. -/
theorem foldl_addFraction {digits : List Char} {significand : Nat} {power : Int}
    (room : 10 ^ digits.length * significand + digitsValue digits < significandBound) :
    digits.foldl Accumulation.addFraction ⟨significand, power, false⟩ =
      ⟨10 ^ digits.length * significand + digitsValue digits, power - digits.length, false⟩ := by
  induction digits generalizing significand power with
  | nil =>
      rw [List.foldl_nil, List.length_nil, Nat.pow_zero, Nat.one_mul, Nat.cast_zero, sub_zero]
      rfl
  | cons c rest ih =>
      have same := joined_digits significand c rest
      rw [same] at room
      have next : 10 * significand + Text.digitValue c < significandBound := by
        refine lt_of_le_of_lt (le_trans ?_ (Nat.le_add_right _ _)) room
        exact Nat.le_mul_of_pos_left _ (Nat.pow_pos (by decide))
      have power_eq : power - (c :: rest).length = power - 1 - rest.length := by
        rw [List.length_cons, Nat.cast_succ]
        omega
      rw [List.foldl_cons, same, power_eq, ← ih room]
      congr 1
      exact if_pos (by simpa using next)

/-- The significand of a numeral whose digits all count. -/
def significand (numeral : Numeral) : Nat := digitsValue (numeral.whole ++ numeral.fraction)

/-- The power of ten of its last digit. -/
def power (numeral : Numeral) : Int := numeral.exponent?.getD 0 - numeral.fraction.length

theorem double?_eq {numeral : Numeral} (room : numeral.significand < significandBound) :
    numeral.double? = ((Binary64.ofNat numeral.significand).scale? numeral.power).map
      fun magnitude => if numeral.negative then magnitude.neg else magnitude := by
  have split : 10 ^ numeral.fraction.length * digitsValue numeral.whole +
      digitsValue numeral.fraction = numeral.significand :=
    (Text.digitsValue_append _ _).symm
  have wholeRoom : 10 ^ numeral.whole.length * 0 + digitsValue numeral.whole <
      significandBound := by
    rw [Nat.mul_zero, Nat.zero_add]
    refine lt_of_le_of_lt ?_ room
    rw [← split]
    exact (Nat.le_mul_of_pos_left _ (Nat.pow_pos (by decide))).trans (Nat.le_add_right _ _)
  unfold double?
  rw [foldl_addWhole wholeRoom, Nat.mul_zero, Nat.zero_add]
  dsimp only
  rw [foldl_addFraction (split ▸ room), split]
  dsimp only
  rw [power, zero_sub, neg_add_eq_sub]

/-! ## The numerals of doubles -/

/-- A numeral that a decimal is written with, where `text` is what stands behind the sign. -/
structure Writes (numeral : Numeral) (d : Decimal) (text : List Char) : Prop where
  proper : numeral.Proper
  written_eq : numeral.written = (if numeral.negative then ['-'] else []) ++ text
  significand_le : numeral.significand ≤ 10 ^ 17
  /-- Only the form with an exponent can have a great power of ten, and then it is the decimal's
  own. -/
  power_lt : numeral.power < 0 ∨
    0 < d.digits ∧ numeral.significand = d.digits ∧ numeral.power = d.exponent

theorem fractionText_of_ne_nil {fraction : List Char} (nonempty : fraction ≠ []) :
    fractionText fraction = '.' :: fraction :=
  if_neg (by simpa using nonempty)

theorem zero_toDigits {n : Nat} (positive : 0 < n) {back : List Char}
    (zero : (Nat.toDigits 10 n ++ back).head? = some '0') : False := by
  rw [List.head?_append_of_ne_nil _ Nat.toDigits_ne_nil] at zero
  exact Text.head?_toDigits positive zero

theorem isDigit_of_mem_replicate {n : Nat} {c : Char} (mem : c ∈ List.replicate n '0') :
    c.isDigit = true := by
  rw [List.eq_of_mem_replicate mem]
  rfl

theorem isDigit_of_mem_zero {c : Char} (mem : c ∈ ['0']) : c.isDigit = true :=
  isDigit_of_mem_replicate (n := 1) mem

theorem writes_zero (negative : Bool) (d : Decimal) :
    Writes ⟨negative, ['0'], ['0'], none⟩ d ['0', '.', '0'] where
  proper := ⟨List.cons_ne_nil _ _, fun _ => isDigit_of_mem_zero, fun _ => rfl,
    fun _ => isDigit_of_mem_zero⟩
  written_eq := rfl
  significand_le := Nat.zero_le _
  power_lt := Or.inl (show (0 : Int) - 1 < 0 by decide)

/-- A whole number that is written with the zeros of its power of ten. -/
theorem writes_whole (negative : Bool) {d : Decimal} (positive : 0 < d.digits) {zeros : Nat}
    (short : (Nat.toDigits 10 d.digits).length + zeros ≤ 16) :
    Writes ⟨negative, Nat.toDigits 10 d.digits ++ List.replicate zeros '0', ['0'], none⟩ d
      (Nat.toDigits 10 d.digits ++ List.replicate zeros '0' ++ ['.', '0']) where
  proper := by
    refine ⟨List.append_ne_nil_of_left_ne_nil Nat.toDigits_ne_nil _, fun c mem => ?_,
      fun zero => (zero_toDigits positive zero).elim, fun _ => isDigit_of_mem_zero⟩
    rcases List.mem_append.mp mem with front | back
    · exact Text.isDigit_of_mem_toDigits front
    · exact isDigit_of_mem_replicate back
  written_eq := by
    rw [written, exponentText, List.append_nil, fractionText_of_ne_nil (List.cons_ne_nil _ _)]
  significand_le := by
    have digits : ∀ c ∈ Nat.toDigits 10 d.digits ++ List.replicate zeros '0' ++ ['0'],
        c.isDigit = true := by
      intro c mem
      rw [List.append_assoc] at mem
      rcases List.mem_append.mp mem with front | back
      · exact Text.isDigit_of_mem_toDigits front
      · exact isDigit_of_mem_replicate (n := zeros + 1)
          (by rwa [List.replicate_succ'])
    refine (Text.digitsValue_lt digits).le.trans (Nat.pow_le_pow_right (by decide) ?_)
    rw [List.length_append, List.length_append, List.length_replicate, List.length_singleton]
    omega
  power_lt := Or.inl (show (0 : Int) - 1 < 0 by decide)

/-- A number that is written with a point among its digits. -/
theorem writes_point (negative : Bool) {d : Decimal} (positive : 0 < d.digits)
    (few : d.digits ≤ 10 ^ 17) {whole : Nat} (more : 0 < whole)
    (less : whole < (Nat.toDigits 10 d.digits).length) :
    Writes ⟨negative, (Nat.toDigits 10 d.digits).take whole,
        (Nat.toDigits 10 d.digits).drop whole, none⟩ d
      ((Nat.toDigits 10 d.digits).take whole ++ '.' :: (Nat.toDigits 10 d.digits).drop whole) where
  proper := by
    have headed : ((Nat.toDigits 10 d.digits).take whole).head? =
        (Nat.toDigits 10 d.digits).head? := by
      rw [List.head?_take, if_neg more.ne']
    refine ⟨?_, fun c mem => Text.isDigit_of_mem_toDigits (List.mem_of_mem_take mem),
      fun zero => ?_, fun c mem => Text.isDigit_of_mem_toDigits (List.mem_of_mem_drop mem)⟩
    · rw [ne_eq, List.take_eq_nil_iff]
      exact not_or.mpr ⟨more.ne', Nat.toDigits_ne_nil⟩
    · exact absurd (headed ▸ zero) (Text.head?_toDigits positive)
  written_eq := by
    have nonempty : (Nat.toDigits 10 d.digits).drop whole ≠ [] := by
      rw [ne_eq, List.drop_eq_nil_iff]
      exact not_le.mpr less
    rw [written, exponentText, List.append_nil, fractionText_of_ne_nil nonempty]
  significand_le := by
    rw [significand, List.take_append_drop, Text.digitsValue_toDigits]
    exact few
  power_lt := by
    refine Or.inl ?_
    rw [power, List.length_drop, Option.getD_none]
    omega

/-- A number below one that is written with zeros behind the point. -/
theorem writes_small (negative : Bool) {d : Decimal} (few : d.digits ≤ 10 ^ 17) (zeros : Nat) :
    Writes ⟨negative, ['0'], List.replicate zeros '0' ++ Nat.toDigits 10 d.digits, none⟩ d
      (['0', '.'] ++ (List.replicate zeros '0' ++ Nat.toDigits 10 d.digits)) where
  proper := by
    refine ⟨List.cons_ne_nil _ _, fun _ => isDigit_of_mem_zero, fun _ => rfl, fun c mem => ?_⟩
    rcases List.mem_append.mp mem with front | back
    · exact isDigit_of_mem_replicate front
    · exact Text.isDigit_of_mem_toDigits back
  written_eq := by
    rw [written, exponentText, List.append_nil,
      fractionText_of_ne_nil (List.append_ne_nil_of_right_ne_nil _ Nat.toDigits_ne_nil)]
    rfl
  significand_le := by
    have zeros_eq : ['0'] ++ List.replicate zeros '0' = List.replicate (zeros + 1) '0' := rfl
    rw [significand, ← List.append_assoc, zeros_eq, Text.digitsValue_append,
      Text.digitsValue_replicate_zero, Nat.mul_zero, Nat.zero_add, Text.digitsValue_toDigits]
    exact few
  power_lt := by
    have := List.length_pos_iff.mpr (Nat.toDigits_ne_nil (n := d.digits) (b := 10))
    refine Or.inl ?_
    rw [power, List.length_append, Option.getD_none]
    omega

/-- A number that is written with an exponent. -/
theorem writes_exponent (negative : Bool) {d : Decimal} (positive : 0 < d.digits)
    (few : d.digits ≤ 10 ^ 17) :
    Writes ⟨negative, (Nat.toDigits 10 d.digits).take 1, (Nat.toDigits 10 d.digits).drop 1,
        some (d.exponent + (Nat.toDigits 10 d.digits).length - 1)⟩ d
      ((Nat.toDigits 10 d.digits).take 1 ++ (fractionText ((Nat.toDigits 10 d.digits).drop 1) ++
        exponentText (some (d.exponent + (Nat.toDigits 10 d.digits).length - 1)))) where
  proper := by
    refine ⟨?_, fun c mem => Text.isDigit_of_mem_toDigits (List.mem_of_mem_take mem),
      fun zero => ?_,
      fun c mem => Text.isDigit_of_mem_toDigits (List.mem_of_mem_drop mem)⟩
    · rw [ne_eq, List.take_eq_nil_iff]
      exact not_or.mpr ⟨Nat.one_ne_zero, Nat.toDigits_ne_nil⟩
    · rw [List.head?_take, if_neg Nat.one_ne_zero] at zero
      exact absurd zero (Text.head?_toDigits positive)
  written_eq := rfl
  significand_le := by
    rw [significand, List.take_append_drop, Text.digitsValue_toDigits]
    exact few
  power_lt := by
    have length := List.length_pos_iff.mpr (Nat.toDigits_ne_nil (n := d.digits) (b := 10))
    refine Or.inr ⟨positive, ?_, ?_⟩
    · rw [significand, List.take_append_drop, Text.digitsValue_toDigits]
    · rw [power, List.length_drop, Option.getD_some]
      omega

theorem exponent_toList (k : Int) : (doubleLayout.exponentMark ++ if 0 ≤ k then
    doubleLayout.positiveMark ++ Text.decimal k.toNat else "-" ++ Text.decimal (-k).toNat).toList =
      exponentText (some k) := by
  rw [exponentText, show doubleLayout.exponentMark = "e" from rfl,
    show doubleLayout.positiveMark = "+" from rfl]
  split
  · rename_i nonneg
    obtain ⟨n, rfl⟩ := Int.eq_ofNat_of_zero_le nonneg
    simp [Text.decimal]
  · rename_i below
    obtain ⟨n, rfl⟩ := Int.eq_negSucc_of_lt_zero (not_le.mp below)
    simp [Text.decimal]

/-- Every decimal of at most seventeen digits has a numeral that it is written with. -/
theorem exists_writes (negative : Bool) {d : Decimal} (few : d.digits ≤ 10 ^ 17) :
    ∃ numeral : Numeral, numeral.negative = negative ∧
      Writes numeral d (doubleLayout.write d).toList := by
  have length := List.length_pos_iff.mpr (Nat.toDigits_ne_nil (n := d.digits) (b := 10))
  have least : doubleLayout.leastPositional = -5 := rfl
  have greatest : doubleLayout.greatestPositional = 15 := rfl
  rw [DecimalLayout.write]
  dsimp only
  by_cases zero : d.digits = 0
  · rw [if_pos zero]
    exact ⟨_, rfl, writes_zero negative d⟩
  have positive : 0 < d.digits := Nat.pos_of_ne_zero zero
  rw [if_neg zero]
  simp only [Bool.and_eq_true, decide_eq_true_eq, least, greatest]
  by_cases positional : -5 ≤ d.exponent + (Nat.toDigits 10 d.digits).length - 1 ∧
      d.exponent + (Nat.toDigits 10 d.digits).length - 1 ≤ 15
  · rw [if_pos positional]
    rcases le_or_gt 0 d.exponent with nonneg | below
    · rw [if_pos nonneg, String.toList_append, String.toList_ofList]
      exact ⟨_, rfl, writes_whole negative positive (by omega)⟩
    · rw [if_neg (not_le.mpr below)]
      rcases le_or_gt 0 (d.exponent + (Nat.toDigits 10 d.digits).length - 1) with one | less
      · rw [if_pos one, String.toList_ofList]
        exact ⟨_, rfl, writes_point negative positive few (Nat.succ_pos _) (by omega)⟩
      · rw [if_neg (not_le.mpr less), String.toList_append, String.toList_ofList,
          String.toList_ofList]
        exact ⟨_, rfl, writes_small negative few _⟩
  · rw [if_neg positional, String.append_assoc, String.toList_append, String.toList_ofList,
      exponent_toList, List.append_assoc]
    exact ⟨_, rfl, writes_exponent negative positive few⟩

/-- The decimal of a double can be read again, for the reader finds a double wherever the digits
are scaled down or belong to a tame decimal. -/
theorem Writes.exists_double? {numeral : Numeral} {d : Decimal} {text : List Char}
    (writes : Writes numeral d text) (tame : d.Tame) : ∃ x, numeral.double? = some x := by
  have room : numeral.significand < significandBound :=
    lt_of_le_of_lt writes.significand_le (by decide)
  suffices scaled : ∃ x, (Binary64.ofNat numeral.significand).scale? numeral.power = some x by
    obtain ⟨x, found⟩ := scaled
    exact ⟨_, by rw [double?_eq room, found, Option.map_some]⟩
  rcases lt_or_ge numeral.power 0 with negative | nonneg
  · exact Binary64.exists_scale?_of_neg
      (Binary64.ofNat_le_divisionBound writes.significand_le) negative
  rcases writes.power_lt with negative | ⟨positive, digits, exponent⟩
  · exact absurd negative (not_lt.mpr nonneg)
  · obtain ⟨k, power_eq⟩ := Int.eq_ofNat_of_zero_le nonneg
    have same : d = ⟨d.digits, k⟩ := by rw [← power_eq, exponent]
    rw [digits, power_eq]
    exact Binary64.exists_scale?_of_tame positive (same ▸ tame)

end Numeral

/-! ## Numbers -/

/-- A number that a reader can give: an integer of 64 bits or a double that is no infinity. -/
def Number.Fits : Number → Prop
  | .integer n => -2 ^ 63 ≤ n ∧ n < 2 ^ 64
  | .double x => x.Finite

theorem Number.fits_toNat (n : UInt32) : (integer n.toNat).Fits := by
  have := n.toNat_lt
  exact ⟨by omega, by omega⟩

/-- The number that is read where a number was written. -/
def Number.reread (n : Number) : Number :=
  ((Numeral.read? n.text.toList).bind fun found => found.1.value?).getD n

namespace Numeral

theorem exists_value?_of_double? {numeral : Numeral} {x : Binary64}
    (h : numeral.double? = some x) : ∃ n, numeral.value? = some n := by
  unfold value?
  rw [h]
  dsimp only
  split
  · split
    · split <;> exact ⟨_, rfl⟩
    · split <;> exact ⟨_, rfl⟩
  · exact ⟨_, rfl⟩

/-- The numeral that an integer is written with. -/
def ofInt (n : Int) : Numeral := ⟨decide (n < 0), Nat.toDigits 10 n.natAbs, [], none⟩

theorem proper_ofInt (n : Int) : (ofInt n).Proper where
  whole_ne_nil := Nat.toDigits_ne_nil
  whole_digits _ := Text.isDigit_of_mem_toDigits
  zero_alone zero := by
    rcases Nat.eq_zero_or_pos n.natAbs with none | positive
    · show Nat.toDigits 10 n.natAbs = ['0']
      rw [none]
      rfl
    · exact absurd zero (Text.head?_toDigits positive)
  fraction_digits := List.forall_mem_nil _

theorem written_ofInt (n : Int) : (ofInt n).written = (Number.integer n).text.toList := by
  rw [Number.text, written, ofInt, exponentText, fractionText]
  rcases le_or_gt 0 n with nonneg | negative
  · have sign : ¬n < 0 := not_lt.mpr nonneg
    obtain ⟨m, rfl⟩ := Int.eq_ofNat_of_zero_le nonneg
    simp [sign, Text.decimal]
  · obtain ⟨m, rfl⟩ := Int.eq_negSucc_of_lt_zero negative
    simp [Text.decimal, Int.negSucc_lt_zero]

theorem value?_ofInt {n : Int} (fits : (Number.integer n).Fits) :
    (ofInt n).value? = some (.integer n) := by
  obtain ⟨lower, upper⟩ := fits
  rw [value?, ofInt]
  dsimp only
  rw [Text.digitsValue_toDigits]
  simp only [List.isEmpty_nil, Option.isNone_none, Bool.and_self, ↓reduceIte, decide_eq_true_eq]
  rcases le_or_gt 0 n with nonneg | negative
  · have room : n.natAbs < significandBound := by
      show n.natAbs < 2 ^ 64
      omega
    rw [if_neg (not_lt.mpr nonneg), if_pos room, Int.natAbs_of_nonneg nonneg]
  · have room : 0 < n.natAbs ∧ n.natAbs ≤ 2 ^ 63 := by omega
    rw [if_pos negative, if_pos (by simpa using room), Int.ofNat_natAbs_of_nonpos negative.le,
      neg_neg]

/-- **Every number that fits has a numeral that it is written with and that can be read.** -/
theorem exists_written {n : Number} (fits : n.Fits) : ∃ numeral : Numeral, numeral.Proper ∧
    numeral.written = n.text.toList ∧ ∃ m, numeral.value? = some m := by
  cases n with
  | integer n => exact ⟨ofInt n, proper_ofInt n, written_ofInt n, _, value?_ofInt fits⟩
  | double x =>
      have tame := Binary64.tame_shortest fits
      obtain ⟨numeral, sign, writes⟩ := exists_writes x.negative tame.digits_le
      obtain ⟨y, found⟩ := writes.exists_double? tame
      refine ⟨numeral, writes.proper, ?_, exists_value?_of_double? found⟩
      rw [writes.written_eq, sign, Number.text, String.toList_append]
      cases x.negative <;> rfl

end Numeral

namespace Number

/-- **A number that fits is read again**, whatever stands behind it that does not go on with
it. -/
theorem read?_text {n : Number} {rest : List Char} (fits : n.Fits) (stops : Numeral.Stops rest) :
    ∃ numeral, Numeral.read? (n.text.toList ++ rest) = some (numeral, rest) ∧
      numeral.value? = some n.reread := by
  obtain ⟨numeral, proper, written, m, value⟩ := Numeral.exists_written fits
  have alone := Numeral.read?_written proper Numeral.stops_nil
  rw [List.append_nil, written] at alone
  refine ⟨numeral, written ▸ Numeral.read?_written proper stops, ?_⟩
  rw [reread, alone, Option.bind_some, value, Option.getD_some]

/-- An integer is read as itself. -/
theorem reread_integer {n : Int} (fits : (integer n).Fits) : (integer n).reread = integer n := by
  have alone := Numeral.read?_written (Numeral.proper_ofInt n) Numeral.stops_nil
  rw [List.append_nil, Numeral.written_ofInt] at alone
  rw [reread, alone, Option.bind_some, Numeral.value?_ofInt fits, Option.getD_some]

end Number

/-- A double that is read is no infinity. -/
theorem Numeral.finite_of_double? {numeral : Numeral} {x : Binary64}
    (h : numeral.double? = some x) : x.Finite := by
  obtain ⟨y, scaled, rfl⟩ := Option.map_eq_some_iff.mp h
  have finite := Binary64.finite_of_scale? (Binary64.finite_ofNat _) scaled
  split
  · exact finite.neg
  · exact finite

/-- **Every number that is read fits.** -/
theorem Numeral.fits_of_value? {numeral : Numeral} {n : Number} (h : numeral.value? = some n) :
    n.Fits := by
  have double {n : Number} (h : numeral.double?.map Number.double = some n) : n.Fits := by
    obtain ⟨x, found, rfl⟩ := Option.map_eq_some_iff.mp h
    exact finite_of_double? found
  unfold value? at h
  dsimp only at h
  split at h
  · split at h
    · split at h
      · rename_i room
        simp only [Bool.and_eq_true, decide_eq_true_eq, Nat.pow_eq] at room
        obtain rfl := Option.some.inj h
        show -2 ^ 63 ≤ -((digitsValue numeral.whole : Nat) : Int) ∧ _ < _
        omega
      · exact double h
    · split at h
      · rename_i room
        replace room : digitsValue numeral.whole < 2 ^ 64 := room
        obtain rfl := Option.some.inj h
        show -2 ^ 63 ≤ ((digitsValue numeral.whole : Nat) : Int) ∧ _ < _
        omega
      · exact double h
  · exact double h

end PatternRefinement.Json
