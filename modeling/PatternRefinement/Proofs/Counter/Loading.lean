import PatternRefinement.Proofs.Counter
import PatternRefinement.Proofs.Json.Spelling
import PatternRefinement.Proofs.StepCount
import PatternRefinement.Program

/-!
# The number that a state file states

## Main Definitions

* `Json.Spelled.States` — a member states a number, by its digits or by a text
* `CounterStore.States` — a state file states a number

## Main Statements

* `Json.Spelled.refinementNumber?_eq_some_iff` — a member is read as the number that it states
* `CounterStore.lookup_readState?_iff` — the last member of a name is the one that is looked up
* `CounterStore.load_by_number` — what is loaded, by the number that is stated

## Design Notes

A number may be stated that no word of 64 bits holds.  Written in digits alone it is read as a
double then, and as a text it is not read at all; in neither case it is a number of a refinement.
So it is enough to know that no file states two numbers.
-/

namespace PatternRefinement

open Json (Value Spelled Last spelledMembersOfBytes?)

/-! ## Texts -/

/-- A text is read as the number that it enters, if 64 bits hold it. -/
theorem Text.unsignedBelow?_trim_eq_some_iff {raw : String} {n : Nat} :
    Text.unsignedBelow? (Nat.pow 2 64) (Text.trim raw.toList) = some n ↔
      StepCount.Enters raw n ∧ n < 2 ^ 64 := by
  rw [Text.unsignedBelow?, Option.filter_eq_some_iff, decide_eq_true_iff, StepCount.enters_iff,
    Text.unsigned?]
  refine and_congr_left fun _ => ?_
  split
  · rename_i digits
    rw [Option.some_inj, and_iff_right digits]
  · rename_i other
    exact iff_of_false (Option.some_ne_none n).symm fun entered => other entered.1

/-! ## Members -/

theorem wholeNumber?_canonical (value : Value) :
    wholeNumber? value.canonical = wholeNumber? value := by
  cases value <;> rfl

namespace Json.Spelled

/-- A member states a number: it is spelled with the digits of the number alone, without a sign, a
fraction or an exponent, or its value is a text that enters the number. -/
inductive States (found : Spelled) (n : Nat) : Prop where
  | literal (digits : found.spelling = Nat.toDigits 10 n)
  | text (raw : String) (value : found.value = .string raw) (enters : StepCount.Enters raw n)

variable {depth : Nat} {text rest : List Char} {found : Spelled}

/-- No member states two numbers. -/
theorem States.unique (read : Json.spelled depth text = some (found, rest)) {n m : Nat}
    (states : found.States n) (again : found.States m) : n = m := by
  have apart {n : Nat} {raw : String} (digits : found.spelling = Nat.toDigits 10 n)
      (value : found.value = .string raw) : False := by
    obtain ⟨number, numeral⟩ := Json.exists_number_of_spelling read digits
    cases value.symm.trans numeral
  cases states with
  | literal digits =>
      cases again with
      | literal others =>
          rw [← Text.digitsValue_toDigits n, ← digits, others, Text.digitsValue_toDigits]
      | text raw value enters => exact (apart digits value).elim
  | text raw value enters =>
      cases again with
      | literal digits => exact (apart digits value).elim
      | text other same entered =>
          obtain rfl := Value.string.inj (value.symm.trans same)
          exact enters.unique entered

/-- The whole number that is read is the one that is stated, if 64 bits hold it. -/
theorem wholeNumber?_eq_some_iff (read : Json.spelled depth text = some (found, rest)) {n : Nat}
    (room : n < 2 ^ 64) : wholeNumber? found.value = some n ↔ found.States n := by
  constructor
  · intro whole
    cases value : found.value with
    | number number =>
        rw [value] at whole
        cases number with
        | integer i =>
            rw [wholeNumber?] at whole
            split at whole
            · rename_i positive
              have same : i = n := by
                rw [← Option.some.inj whole, Int.toNat_of_nonneg positive]
              exact .literal ((Json.spelling_eq_iff read room).mpr (same ▸ value))
            · cases whole
        | double x => cases whole
    | string raw =>
        rw [value] at whole
        exact .text raw value (Text.unsignedBelow?_trim_eq_some_iff.mp whole).1
    | null => cases value ▸ whole
    | bool b => cases value ▸ whole
    | array items => cases value ▸ whole
    | object members => cases value ▸ whole
  · intro states
    cases states with
    | literal digits =>
        rw [(Json.spelling_eq_iff read room).mp digits, wholeNumber?,
          if_pos (Int.natCast_nonneg n), Int.toNat_natCast]
    | text raw value enters =>
        rw [value]
        exact Text.unsignedBelow?_trim_eq_some_iff.mpr ⟨enters, room⟩

/-- **A member is read as the number that it states**, if that is a number of a refinement. -/
theorem refinementNumber?_eq_some_iff (read : Json.spelled depth text = some (found, rest))
    {n : UInt32} : refinementNumber? found.value.canonical = some n ↔
      found.States n.toNat ∧ 1 ≤ n.toNat := by
  have room : n.toNat < 2 ^ 64 := Nat.lt_trans n.toNat_lt (by decide)
  rw [PatternRefinement.refinementNumber?_eq_some_iff, wholeNumber?_canonical,
    wholeNumber?_eq_some_iff read room]

end Json.Spelled

namespace CounterStore

/-! ## State files -/

/-- The members that are read from a state file are those of the object that it holds. -/
theorem readState?_eq_some_iff {store : CounterStore} {tree : FileTree}
    {state : List (String × Value)} : store.readState? tree = some state ↔
      ∃ content members, tree.read store.path = .ok content ∧
        spelledMembersOfBytes? content = some members ∧
        Json.setMembers (members.map fun member => (member.1, member.2.value.canonical)) [] =
          state := by
  have plain (members : List (String × Spelled)) :
      Json.canonicalMembers (members.map Spelled.plain) =
        members.map fun member => (member.1, member.2.value.canonical) := by
    rw [Json.canonicalMembers_eq, List.map_map]
    rfl
  constructor
  · intro h
    unfold readState? at h
    split at h
    · rename_i object
      obtain rfl := Option.some.inj h
      obtain ⟨value, read, canonical⟩ := Option.map_eq_some_iff.mp object
      obtain ⟨written, rfl, same⟩ := Json.canonical_eq_object_iff.mp canonical
      rw [readText?_eq, Option.bind_assoc] at read
      obtain ⟨content, stands, inside⟩ := Option.bind_eq_some_iff.mp read
      obtain ⟨members, spelled, rfl⟩ := Json.readBytes?_object_iff.mp inside
      exact ⟨content, members, stored?_eq_some_iff.mp stands, spelled, plain members ▸ same⟩
    · cases h
  · rintro ⟨content, members, stands, spelled, rfl⟩
    have inside := Json.readBytes?_object_iff.mpr ⟨members, spelled, rfl⟩
    have read : (tree.readText? store.path).bind Json.read? =
        some (.object (members.map Spelled.plain)) := by
      rw [readText?_eq, Option.bind_assoc, stored?_eq_some_iff.mpr stands]
      exact inside
    rw [readState?, read, Option.map_some, Value.canonical, plain]

/-- **The last member of a name is the one that is looked up.** -/
theorem lookup_readState?_iff {store : CounterStore} {tree : FileTree} {name : String}
    {value : Value} : (store.readState? tree).bind (·.lookup name) = some value ↔
      ∃ content members found, tree.read store.path = .ok content ∧
        spelledMembersOfBytes? content = some members ∧ Last members name found ∧
        found.value.canonical = value := by
  rw [Option.bind_eq_some_iff]
  constructor
  · rintro ⟨state, read, looked⟩
    obtain ⟨content, members, stands, spelled, rfl⟩ := readState?_eq_some_iff.mp read
    obtain ⟨found, last, same⟩ := (Json.last_map_iff fun found : Spelled =>
      found.value.canonical).mp (Json.lookup_setMembers_iff.mp looked)
    exact ⟨content, members, found, stands, spelled, last, same⟩
  · rintro ⟨content, members, found, stands, spelled, last, same⟩
    have seen := (Json.last_map_iff fun found : Spelled => found.value.canonical).mpr
      ⟨found, last, same⟩
    exact ⟨_, readState?_eq_some_iff.mpr ⟨content, members, stands, spelled, rfl⟩,
      Json.lookup_setMembers_iff.mpr seen⟩

/-- A state file states a number: it is a file of well-formed text that holds one JSON object, and
the last member of that object with the name of the number states it. -/
def States (store : CounterStore) (tree : FileTree) (n : Nat) : Prop :=
  ∃ content members found, tree.read store.path = .ok content ∧
    spelledMembersOfBytes? content = some members ∧ Last members counterKey found ∧ found.States n

/-- No state file states two numbers. -/
theorem States.unique {store : CounterStore} {tree : FileTree} {n m : Nat}
    (states : store.States tree n) (again : store.States tree m) : n = m := by
  obtain ⟨content, members, found, stands, spelled, last, first⟩ := states
  obtain ⟨content', members', found', stands', spelled', last', second⟩ := again
  obtain rfl := Except.ok.inj (stands.symm.trans stands')
  obtain rfl := Option.some.inj (spelled.symm.trans spelled')
  obtain rfl := last.unique last'
  obtain ⟨text, rest, read⟩ := Json.exists_spelled_of_mem spelled last.mem
  exact first.unique read second

/-- The number that is read from a state file is the one that it states. -/
theorem refinementNumber_iff {store : CounterStore} {tree : FileTree} {n : UInt32} :
    ((store.readState? tree).bind (·.lookup counterKey)).bind refinementNumber? = some n ↔
      store.States tree n.toNat ∧ 1 ≤ n.toNat := by
  rw [Option.bind_eq_some_iff]
  constructor
  · rintro ⟨value, looked, number⟩
    obtain ⟨content, members, found, stands, spelled, last, rfl⟩ := lookup_readState?_iff.mp looked
    obtain ⟨text, rest, read⟩ := Json.exists_spelled_of_mem spelled last.mem
    obtain ⟨states, positive⟩ := (Spelled.refinementNumber?_eq_some_iff read).mp number
    exact ⟨⟨content, members, found, stands, spelled, last, states⟩, positive⟩
  · rintro ⟨⟨content, members, found, stands, spelled, last, states⟩, positive⟩
    obtain ⟨text, rest, read⟩ := Json.exists_spelled_of_mem spelled last.mem
    exact ⟨found.value.canonical,
      lookup_readState?_iff.mpr ⟨content, members, found, stands, spelled, last, rfl⟩,
      (Spelled.refinementNumber?_eq_some_iff read).mpr ⟨states, positive⟩⟩

/-! ## Loading -/

theorem load_of_states {store : CounterStore} {tree : FileTree} {n : UInt32}
    (states : store.States tree n.toNat) (positive : 1 ≤ n.toNat) : store.load tree = n := by
  rw [load, refinementNumber_iff.mpr ⟨states, positive⟩, Option.getD_some]

theorem load_of_not_states {store : CounterStore} {tree : FileTree}
    (none : ∀ n : UInt32, store.States tree n.toNat → n.toNat = 0) : store.load tree = 1 := by
  rw [load]
  cases found : ((store.readState? tree).bind (·.lookup counterKey)).bind refinementNumber? with
  | none => rfl
  | some n =>
      obtain ⟨states, positive⟩ := refinementNumber_iff.mp found
      exact absurd (none n states) (Nat.ne_of_gt positive)

/-- **The number that a state file states is loaded, and one if it states none that can be a
number of a refinement.**  A number is stated by a file of well-formed text that holds one JSON
object; there the last member with the name of the number counts, which may be spelled with the
digits of the number alone, or be a text that is digits behind an optional plus sign once the blanks
at its ends are gone.  It can be a number of a refinement if it is positive and 32 bits hold it.  So
the answer is one for a path that leads to no file, for bytes that are no text, for a text that is
no object, for an object without such a member, and for a member that is anything else.  The program
can be asked for the number, and that leaves every file as it is. -/
theorem load_by_number (store : CounterStore) (tree : FileTree) :
    (∀ n, store.States tree n →
      (store.load tree).toNat = if 1 ≤ n ∧ n ≤ 2 ^ 32 - 1 then n else 1) ∧
    ((∀ n, ¬store.States tree n) → store.load tree = 1) ∧
    ∀ settings surroundings, settings.statePath = store.path → surroundings.files = tree →
      (Job.perform settings surroundings .counter).succeeded = true ∧
      (Job.perform settings surroundings .counter).files = tree ∧
      (Job.perform settings surroundings .counter).messages =
        [.info (nextRefinementText (store.load tree))] := by
  refine ⟨fun n states => ?_, fun none => ?_, ?_⟩
  · by_cases usable : 1 ≤ n ∧ n ≤ 2 ^ 32 - 1
    · have fits : n < 2 ^ 32 := by omega
      have same : (UInt32.ofNat n).toNat = n := UInt32.toNat_ofNat_of_lt' fits
      rw [if_pos usable, load_of_states (same.symm ▸ states) (same.symm ▸ usable.1), same]
    · rw [if_neg usable, load_of_not_states fun m other => ?_]
      · rfl
      · have only : m.toNat = n := other.unique states
        have bound := m.toNat_lt
        omega
  · exact load_of_not_states fun n states => absurd states (none _)
  · rintro settings surroundings path rfl
    have same : Job.counterStore settings = store := congrArg CounterStore.mk path
    refine ⟨rfl, rfl, ?_⟩
    rw [← same]
    rfl

end CounterStore

end PatternRefinement
