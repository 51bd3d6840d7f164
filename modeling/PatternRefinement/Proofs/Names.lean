import PatternRefinement.Proofs.Catalog
import PatternRefinement.Proofs.Selection
import PatternRefinement.Proofs.Text.Split

/-!
# The names in a text

A user lists names in a text, with commas between them.  What counts is which names are there: their
order, their number, the blanks around them and the places between two commas where none is do not
matter.

## Main Definitions

* `Lists` — a text lists a name
* `SameNames` — two texts list the same names
* `Chooses` — a list of names chooses those that are wanted

## Main Statements

* `mem_splitNames` — what is split off a text is what it lists
* `Chooses.names_eq` — texts with the same names stand for one selection

## Design Notes

A selection is known by the names in it, because it has them in ascending order.  So whatever
depends on the selections of a session only does not depend on how the texts are written.
-/

namespace PatternRefinement

/-! ## Listing names -/

/-- A text lists a name: between its commas the name stands somewhere, with blanks around it. -/
def Lists (text : String) (name : PatternName) : Prop :=
  name ≠ "" ∧ ∃ part ∈ text.toList.splitOn ',', String.ofList (Text.trim part) = name

/-- Two texts list the same names. -/
def SameNames (text other : String) : Prop :=
  ∀ name, Lists text name ↔ Lists other name

theorem SameNames.symm {text other : String} (same : SameNames text other) :
    SameNames other text :=
  fun name => (same name).symm

/-- Names are split off a text exactly if it lists them. -/
theorem mem_splitNames {text : String} {name : PatternName} :
    name ∈ splitNames text ↔ Lists text name := by
  rw [splitNames, List.mem_eraseDups, List.mem_map]
  constructor
  · rintro ⟨letters, kept, rfl⟩
    obtain ⟨trimmed, notEmpty⟩ := List.mem_filter.mp kept
    obtain ⟨part, mem, rfl⟩ := List.mem_map.mp trimmed
    refine ⟨fun empty => ?_, part, mem, rfl⟩
    rw [String.ofList_eq_empty_iff.mp empty] at notEmpty
    cases notEmpty
  · rintro ⟨notEmpty, part, mem, rfl⟩
    refine ⟨Text.trim part, List.mem_filter.mpr ⟨List.mem_map_of_mem mem, ?_⟩, rfl⟩
    rw [Bool.not_eq_true', List.isEmpty_eq_false_iff]
    exact fun empty => notEmpty (String.ofList_eq_empty_iff.mpr empty)

theorem nodup_splitNames (text : String) : (splitNames text).Nodup :=
  nodup_eraseDups _

/-! ## Choices of names -/

/-- Lists of names that ascend strictly are equal if they have the same members. -/
theorem ascending_unique {names others : List PatternName} (ascending : names.Pairwise (· < ·))
    (ascends : others.Pairwise (· < ·)) (same : ∀ name, name ∈ names ↔ name ∈ others) :
    names = others := by
  have distinct {names : List PatternName} (ascending : names.Pairwise (· < ·)) : names.Nodup :=
    ascending.imp fun less => Std.ne_of_lt less
  have perm : names.Perm others :=
    (List.perm_ext_iff_of_nodup (distinct ascending) (distinct ascends)).mpr same
  refine perm.eq_of_pairwise (fun first second _ _ less greater => ?_) ascending ascends
  exact absurd (String.lt_trans less greater) (String.lt_irrefl first)

/-- Names that ascend strictly and are exactly those that are wanted. -/
structure Chooses (names : List PatternName) (wanted : PatternName → Prop) : Prop where
  ascending : names.Pairwise (· < ·)
  mem_iff : ∀ name, name ∈ names ↔ wanted name

/-- What is wanted is chosen in one way only. -/
theorem Chooses.names_eq {names others : List PatternName} {wanted wants : PatternName → Prop}
    (chooses : Chooses names wanted) (choosesOther : Chooses others wants)
    (same : ∀ name, wanted name ↔ wants name) : names = others := by
  refine ascending_unique chooses.ascending choosesOther.ascending fun name => ?_
  rw [chooses.mem_iff, choosesOther.mem_iff]
  exact same name

end PatternRefinement
