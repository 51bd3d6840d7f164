import PatternRefinement.Proofs.Text.Digits
import PatternRefinement.StepCount

/-!
# The number of steps that a user typed

## Main Definitions

* `Enters` — a text enters a number
* `Says` — what the user is told when a text is refused holds some words

## Main Statements

* `read_of_isDigits`, `read_of_not_isDigits` — what is read of digits, and of anything else
* `read_by_number` — what is read, by the number that a text enters

## Design Notes

A word of 64 bits has no room for most numbers, but a text is judged by the number that it enters
all the same: what has no room is too great a number of steps, however many zeros stand in front.
-/

namespace PatternRefinement.StepCount

open Text (trim withoutPlus isDigits digitsValue)

/-- The signs that a number may have. -/
def signs : List (List Char) := [[], ['+']]

/-- A text enters a number: without the blanks at its ends it is a sign, any zeros, and the decimal
digits of the number. -/
def Enters (raw : String) (count : Nat) : Prop :=
  ∃ sign ∈ signs, ∃ zeros,
    trim raw.toList = sign ++ (List.replicate zeros '0' ++ Nat.toDigits 10 count)

/-- A text is refused, and what the user is told holds some words. -/
def Says (raw words : String) : Prop :=
  ∃ failure, read raw = .error failure ∧ words.toList <:+: failure.message.toList

/-! ## Digits behind a sign -/

theorem isDigits_iff {text : List Char} :
    isDigits text = true ↔ text ≠ [] ∧ ∀ c ∈ text, c.isDigit = true := by
  rw [isDigits, Bool.and_eq_true, Bool.not_eq_true', List.isEmpty_eq_false_iff, List.all_eq_true]

/-- A text of digits is what is left of it without a plus sign, and of it behind one. -/
theorem withoutPlus_eq_iff {text digits : List Char} (all : isDigits digits = true) :
    withoutPlus text = digits ↔ ∃ sign ∈ signs, text = sign ++ digits := by
  have unsigned : ∀ rest, digits ≠ '+' :: rest := by
    rintro rest rfl
    exact absurd ((isDigits_iff.mp all).2 '+' List.mem_cons_self) (by decide)
  simp only [signs, List.mem_cons, List.not_mem_nil, or_false, exists_eq_or_imp, exists_eq_left,
    List.nil_append, List.singleton_append]
  unfold withoutPlus
  split
  · rename_i rest
    simp [(unsigned rest).symm]
  · rename_i plain
    exact ⟨Or.inl, fun same => same.resolve_right (plain digits)⟩

/-- The texts that enter a number are those of digits behind a sign. -/
theorem enters_iff {raw : String} {count : Nat} : Enters raw count ↔
    isDigits (withoutPlus (trim raw.toList)) = true ∧
      digitsValue (withoutPlus (trim raw.toList)) = count := by
  constructor
  · rintro ⟨sign, mem, zeros, same⟩
    have all : isDigits (List.replicate zeros '0' ++ Nat.toDigits 10 count) = true :=
      isDigits_iff.mpr (Text.exists_toDigits_iff.mp ⟨count, zeros, rfl⟩)
    rw [(withoutPlus_eq_iff all).mpr ⟨sign, mem, same⟩]
    exact ⟨all, Text.digitsValue_zeros zeros count⟩
  · rintro ⟨all, rfl⟩
    obtain ⟨sign, mem, same⟩ := (withoutPlus_eq_iff all).mp rfl
    obtain ⟨count, zeros, digits⟩ := Text.exists_toDigits_iff.mpr (isDigits_iff.mp all)
    refine ⟨sign, mem, zeros, ?_⟩
    rw [digits, Text.digitsValue_zeros, ← digits]
    exact same

/-- No text enters two numbers. -/
theorem Enters.unique {raw : String} {count other : Nat} (enters : Enters raw count)
    (again : Enters raw other) : count = other :=
  (enters_iff.mp enters).2.symm.trans (enters_iff.mp again).2

/-! ## What is read -/

theorem check_eq (count : Nat) : check count =
    if count = 0 ∨ maxRefinementSteps < count then .error (.invalidStepCount count)
    else .ok count := by
  unfold check
  by_cases outside : count = 0 ∨ maxRefinementSteps < count
  · rw [if_pos outside, if_neg (by omega)]
  · rw [if_neg outside, if_pos (by omega)]

/-- Digits are read as their number, if a word has room for it, and as the greatest there is if
not. -/
theorem read_of_isDigits {raw : String} (all : isDigits (withoutPlus (trim raw.toList)) = true) :
    read raw = check (if digitsValue (withoutPlus (trim raw.toList)) < 2 ^ 63 then
      digitsValue (withoutPlus (trim raw.toList)) else greatest) := by
  have signed : Text.signed? (trim raw.toList) =
      some (digitsValue (withoutPlus (trim raw.toList)) : Int) := by
    unfold Text.signed?
    split
    · -- A minus sign is no digit.
      rename_i rest same
      rw [same] at all
      exact absurd ((isDigits_iff.mp all).2 '-' List.mem_cons_self) (by decide)
    · rw [Text.unsigned?]
      simp only [all, if_true, Option.map_some]
      rfl
  have room : (Nat.pow 2 (64 - 1) : Int) = 2 ^ 63 := rfl
  generalize digitsValue (withoutPlus (trim raw.toList)) = count at signed ⊢
  unfold read
  simp only [Text.signedWithin?, signed, room, all, if_true]
  by_cases fits : count < 2 ^ 63
  · rw [Option.filter_some_pos (by simp; omega), if_pos fits]
    simp
  · rw [Option.filter_some_neg (by simp; omega), if_neg fits]

/-- A text that is no digits is no positive number. -/
theorem signed?_le_zero {text : List Char} {n : Int} (other : isDigits (withoutPlus text) = false)
    (found : Text.signed? text = some n) : n ≤ 0 := by
  unfold Text.signed? at found
  split at found
  · split at found
    · cases found
      omega
    · cases found
  · rw [Text.unsigned?] at found
    simp [other] at found

/-- Everything else counts as zero. -/
theorem read_of_not_isDigits {raw : String}
    (other : isDigits (withoutPlus (trim raw.toList)) = false) : read raw = check 0 := by
  have zero : check 0 = .error (.invalidStepCount 0) := rfl
  unfold read
  dsimp only
  rw [other, zero]
  split
  · rename_i count found
    have bound := signed?_le_zero other (Option.filter_eq_some_iff.mp found).1
    split
    · rw [show count.toNat = 0 by omega, zero]
    · rfl
  · exact if_neg Bool.false_ne_true

theorem read_of_enters {raw : String} {count : Nat} (enters : Enters raw count) :
    read raw = check (if count < 2 ^ 63 then count else greatest) := by
  obtain ⟨all, rfl⟩ := enters_iff.mp enters
  exact read_of_isDigits all

theorem read_of_not_enters {raw : String} (none : ∀ count, ¬Enters raw count) :
    read raw = check 0 := by
  refine read_of_not_isDigits (Bool.eq_false_iff.mpr fun all => ?_)
  exact none _ (enters_iff.mpr ⟨all, rfl⟩)

/-! ## What the user is told -/

theorem message_invalidStepCount (count : Nat) : (Failure.invalidStepCount count).message =
    if count = 0 then "Enter a refinement count of at least 1."
    else "Please choose 20 refinements or fewer to keep things manageable." := by
  have digits : Text.decimal maxRefinementSteps = "20" := by decide
  have joined : "Please choose " ++ "20" ++ " refinements or fewer to keep things manageable." =
      "Please choose 20 refinements or fewer to keep things manageable." := rfl
  show (if count < 1 then _ else "Please choose " ++ Text.decimal maxRefinementSteps ++
    " refinements or fewer to keep things manageable.") = _
  rw [digits, joined]
  simp only [Nat.lt_one_iff]

/-- The user is told to enter a number, or to choose a smaller one. -/
theorem says_iff {raw words : String} {count : Nat} (asked : read raw = check count) :
    Says raw words ↔
      count = 0 ∧ words.toList <:+: "Enter a refinement count of at least 1.".toList ∨
      20 < count ∧ words.toList <:+:
        "Please choose 20 refinements or fewer to keep things manageable.".toList := by
  have bound : maxRefinementSteps = 20 := rfl
  rw [Says, asked, check_eq, bound]
  by_cases zero : count = 0
  · subst zero
    simp [message_invalidStepCount]
  by_cases great : 20 < count
  · simp [message_invalidStepCount, zero, great]
  · simp [zero, great]

theorem says_at_least_iff {raw : String} {count : Nat} (asked : read raw = check count) :
    Says raw "at least 1" ↔ count = 0 := by
  have here : "at least 1".toList <:+: "Enter a refinement count of at least 1.".toList :=
    ⟨"Enter a refinement count of ".toList, ".".toList, rfl⟩
  -- The other message holds a number without a one.
  have elsewhere : ¬"at least 1".toList <:+:
      "Please choose 20 refinements or fewer to keep things manageable.".toList :=
    fun inside => absurd (inside.subset (by decide : '1' ∈ "at least 1".toList)) (by decide)
  simp only [says_iff asked, here, elsewhere, and_true, and_false, or_false]

theorem says_or_fewer_iff {raw : String} {count : Nat} (asked : read raw = check count) :
    Says raw "or fewer" ↔ 20 < count := by
  have elsewhere : ¬"or fewer".toList <:+: "Enter a refinement count of at least 1.".toList :=
    fun inside => absurd (inside.subset (by decide : 'w' ∈ "or fewer".toList)) (by decide)
  have here : "or fewer".toList <:+:
      "Please choose 20 refinements or fewer to keep things manageable.".toList :=
    ⟨"Please choose 20 refinements ".toList, " to keep things manageable.".toList, rfl⟩
  simp only [says_iff asked, here, elsewhere, and_true, and_false, false_or]

/-- The number that decides is zero or above twenty exactly if the number that a text enters is. -/
theorem exists_read_eq_check (raw : String) : ∃ count, read raw = check count ∧
    (count = 0 ↔ ¬∃ entered, Enters raw entered ∧ 0 < entered) ∧
    (20 < count ↔ ∃ entered, Enters raw entered ∧ 20 < entered) := by
  by_cases entered : ∃ count, Enters raw count
  · obtain ⟨count, enters⟩ := entered
    have greatest_eq : greatest = 2 ^ 64 - 1 := rfl
    refine ⟨_, read_of_enters enters, ?_, ?_⟩
    · constructor
      · rintro zero ⟨other, other_enters, positive⟩
        rw [other_enters.unique enters] at positive
        split at zero <;> omega
      · intro none
        have zero : count = 0 := Nat.eq_zero_of_not_pos fun positive => none ⟨_, enters, positive⟩
        rw [zero, if_pos (by decide)]
    · constructor
      · intro great
        refine ⟨count, enters, ?_⟩
        split at great <;> omega
      · rintro ⟨other, other_enters, great⟩
        rw [other_enters.unique enters] at great
        split <;> omega
  · have none : ∀ count, ¬Enters raw count := fun count enters => entered ⟨count, enters⟩
    exact ⟨0, read_of_not_enters none, iff_of_true rfl fun ⟨_, enters, _⟩ => none _ enters,
      iff_of_false (by decide) fun ⟨_, enters, _⟩ => none _ enters⟩

/-- **A text is read by the number that it enters.**  A number from one to twenty is accepted, and
any other one is refused with that number, or with the greatest of 64 bits if it is not below
`2 ^ 63`.  A text that enters no number is refused as zero; the texts that do are those of digits
behind an optional plus sign.  So the user is told to enter at least one step exactly if no positive
number was entered, and to choose fewer exactly if a number above twenty was. -/
theorem read_by_number (raw : String) :
    (∀ count, Enters raw count → read raw =
      if 1 ≤ count ∧ count ≤ 20 then .ok count
      else if count < 2 ^ 63 then .error (.invalidStepCount count)
      else .error (.invalidStepCount (2 ^ 64 - 1))) ∧
    ((∀ count, ¬Enters raw count) → read raw = .error (.invalidStepCount 0)) ∧
    ((∃ count, Enters raw count) ↔ ∃ sign ∈ signs, ∃ digits,
      digits ≠ [] ∧ (∀ c ∈ digits, c.isDigit = true) ∧ trim raw.toList = sign ++ digits) ∧
    (Says raw "at least 1" ↔ ¬∃ count, Enters raw count ∧ 0 < count) ∧
    (Says raw "or fewer" ↔ ∃ count, Enters raw count ∧ 20 < count) := by
  refine ⟨fun count enters => ?_, read_of_not_enters, ?_, ?_⟩
  · have greatest_eq : greatest = 2 ^ 64 - 1 := rfl
    have bound : maxRefinementSteps = 20 := rfl
    rw [read_of_enters enters, check, bound]
    by_cases valid : 1 ≤ count ∧ count ≤ 20
    · have fits : count < 2 ^ 63 := by omega
      rw [if_pos fits, if_pos valid, if_pos valid]
    · rw [if_neg valid]
      by_cases fits : count < 2 ^ 63
      · rw [if_pos fits, if_neg valid, if_pos fits]
      · rw [if_neg fits, if_neg (by omega), if_neg fits, greatest_eq]
  · constructor
    · rintro ⟨count, sign, mem, zeros, same⟩
      obtain ⟨nonempty, all⟩ := Text.exists_toDigits_iff.mp ⟨count, zeros, rfl⟩
      exact ⟨sign, mem, _, nonempty, all, same⟩
    · rintro ⟨sign, mem, digits, nonempty, all, same⟩
      obtain ⟨count, zeros, rfl⟩ := Text.exists_toDigits_iff.mpr ⟨nonempty, all⟩
      exact ⟨count, sign, mem, zeros, same⟩
  · obtain ⟨count, asked, zero, great⟩ := exists_read_eq_check raw
    exact ⟨(says_at_least_iff asked).trans zero, (says_or_fewer_iff asked).trans great⟩

end PatternRefinement.StepCount
