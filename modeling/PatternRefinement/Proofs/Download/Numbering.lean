import PatternRefinement.Proofs.Download.GivenName
import PatternRefinement.Proofs.FileTree.Entry

/-!
# The names that are tried for an archive

## Main Definitions

* `Download.HasExtension` — a name with something behind its last point

## Main Statements

* `Download.exists_hasExtension_iff` — which names have an extension
* `Download.candidate_of_extension`, `Download.candidate_of_no_extension` — where a name is numbered
* `Download.candidate_ne_stagingName` — no archive is given the name under which it was written
* `Download.entryName_candidate` — every name fits into the directory if the staging name does

## Design Notes

A number has at most three digits, so that a numbered name is never longer than the staging name.
The two can be of the same length, and then they end differently.
-/

namespace PatternRefinement.Download

open PatternRefinement.FileTree (EntryName)

/-! ## Extensions -/

/-- A name with an extension: it is what stands behind the last point, unless nothing stands before
that. -/
structure HasExtension (name stem extension : String) : Prop where
  whole : name = stem ++ "." ++ extension
  stem_ne_empty : stem ≠ ""
  last : '.' ∉ extension.toList

/-- A text is cut at its last point in one way only. -/
theorem eq_of_last_point {front behind front' behind' : List Char} (last : '.' ∉ behind)
    (last' : '.' ∉ behind') (same : front ++ '.' :: behind = front' ++ '.' :: behind') :
    front = front' ∧ behind = behind' := by
  rcases List.append_eq_append_iff.mp same with ⟨between, rfl, cut⟩ | ⟨between, rfl, cut⟩
  · cases between with
    | nil => exact ⟨(List.append_nil front).symm, (List.cons_eq_cons.mp cut).2⟩
    | cons c between => exact absurd (by simp [(List.cons_eq_cons.mp cut).2]) last
  · cases between with
    | nil => exact ⟨List.append_nil front', (List.cons_eq_cons.mp cut).2.symm⟩
    | cons c between => exact absurd (by simp [(List.cons_eq_cons.mp cut).2]) last'

variable {name stem extension : String}

theorem HasExtension.toList_eq (has : HasExtension name stem extension) :
    name.toList = stem.toList ++ '.' :: extension.toList := by
  simp [has.whole]

/-- A name that is split has an extension. -/
theorem hasExtension_of_splitExtension (split : splitExtension name = (stem, some extension)) :
    HasExtension name stem extension := by
  obtain ⟨whole, nonempty⟩ := splitExtension_eq_some split
  refine ⟨whole, nonempty, fun point => ?_⟩
  unfold splitExtension at split
  dsimp only at split
  split at split
  · obtain ⟨-, same⟩ := Prod.mk.inj split
    rw [← Option.some.inj same, String.toList_ofList, List.mem_reverse] at point
    have kept : ('.' != '.') = true := List.mem_takeWhile_imp (p := (· != '.')) point
    cases kept
  · cases split

/-- A name that has an extension is split. -/
theorem HasExtension.splitExtension_eq (has : HasExtension name stem extension) :
    splitExtension name = (stem, some extension) := by
  have reversed : name.toList.reverse = extension.toList.reverse ++ '.' :: stem.toList.reverse := by
    simp [has.toList_eq]
  have kept : ∀ c ∈ extension.toList.reverse, (c != '.') = true := fun c mem =>
    bne_iff_ne.mpr (ne_of_mem_of_not_mem (List.mem_reverse.mp mem) has.last)
  obtain ⟨first, rest, stem_eq⟩ := List.exists_cons_of_ne_nil
    (show stem.toList.reverse ≠ [] by simpa using has.stem_ne_empty)
  have taken : name.toList.reverse.takeWhile (· != '.') = extension.toList.reverse := by
    rw [reversed, List.takeWhile_append_of_pos kept, List.takeWhile_cons_of_neg (by decide),
      List.append_nil]
  have dropped : name.toList.reverse.dropWhile (· != '.') = '.' :: first :: rest := by
    rw [reversed, stem_eq, List.dropWhile_append_of_pos kept,
      List.dropWhile_cons_of_neg (by decide)]
  unfold splitExtension
  simp only [taken, dropped]
  rw [← stem_eq, List.reverse_reverse, List.reverse_reverse, String.ofList_toList,
    String.ofList_toList]

/-- A name has an extension if there is a point in it that is not its first character. -/
theorem exists_hasExtension_iff :
    (∃ stem extension, HasExtension name stem extension) ↔ '.' ∈ name.toList.tail := by
  constructor
  · rintro ⟨stem, extension, has⟩
    obtain ⟨first, rest, stem_eq⟩ := List.exists_cons_of_ne_nil
      (show stem.toList ≠ [] by simpa using has.stem_ne_empty)
    rw [has.toList_eq, stem_eq]
    exact List.mem_append_right rest List.mem_cons_self
  · intro point
    obtain ⟨behind, front, cut, last⟩ := List.eq_append_cons_of_mem (List.mem_reverse.mpr point)
    cases letters : name.toList with
    | nil =>
        rw [letters] at point
        cases point
    | cons first rest =>
        rw [letters, List.tail_cons, List.reverse_eq_iff] at cut
        refine ⟨String.ofList (first :: front.reverse), String.ofList behind.reverse, ?_, ?_, ?_⟩
        · apply String.toList_inj.mp
          simp [letters, cut]
        · exact fun empty => by simpa using congrArg String.toList empty
        · simpa using last

/-! ## Numbered names -/

variable {attempt : Nat}

theorem candidate_zero (name : String) : candidate name 0 = name := rfl

/-- A name with an extension is numbered before its last point. -/
theorem candidate_of_extension (has : HasExtension name stem extension) (numbered : 1 ≤ attempt) :
    candidate name attempt =
      stem ++ " (" ++ Text.decimal attempt ++ ")." ++ extension := by
  unfold candidate
  rw [has.splitExtension_eq]
  split
  · cases numbered
  · rename_i split
    cases split
    rfl
  · rename_i split
    cases split

/-- A name without an extension is numbered at its end. -/
theorem candidate_of_no_extension (none : ¬∃ stem extension, HasExtension name stem extension)
    (numbered : 1 ≤ attempt) :
    candidate name attempt = name ++ " (" ++ Text.decimal attempt ++ ")" := by
  unfold candidate
  split
  · cases numbered
  · rename_i split
    exact absurd ⟨_, _, hasExtension_of_splitExtension split⟩ none
  · rename_i split
    rw [splitExtension_eq_none split]

/-- A name is tried as it is, or numbered in one of two ways. -/
theorem candidate_cases (name : String) (attempt : Nat) :
    candidate name attempt = name ∨
    (∃ stem extension, HasExtension name stem extension ∧ candidate name attempt =
      stem ++ " (" ++ Text.decimal attempt ++ ")." ++ extension) ∨
    candidate name attempt = name ++ " (" ++ Text.decimal attempt ++ ")" := by
  rcases Nat.eq_zero_or_pos attempt with rfl | numbered
  · exact Or.inl rfl
  by_cases has : ∃ stem extension, HasExtension name stem extension
  · obtain ⟨stem, extension, has⟩ := has
    exact Or.inr (Or.inl ⟨stem, extension, has, candidate_of_extension has numbered⟩)
  · exact Or.inr (Or.inr (candidate_of_no_extension has numbered))

/-- A text that ends with a bracket does not end with a letter. -/
theorem concat_bracket_ne (front behind : List Char) : front ++ [')'] ≠ behind ++ ['t'] := by
  intro same
  cases (List.append_inj' same rfl).2

/-- **No archive is given the name under which it was written.** -/
theorem candidate_ne_stagingName (name : String) (attempt : Nat) :
    candidate name attempt ≠ stagingName name := by
  intro equal
  have letters := congrArg String.toList equal
  rcases candidate_cases name attempt with same | ⟨stem, extension, has, same⟩ | same
  · exact ne_stagingName name (same.symm.trans equal)
  · -- Both would have the same extension, and what stands before it ends differently.
    rw [same] at letters
    have cut : (stem.toList ++ " (".toList ++ (Text.decimal attempt).toList ++ [')']) ++
        '.' :: extension.toList = ('.' :: name.toList) ++ '.' :: "part".toList := by
      simpa [stagingName] using letters
    obtain ⟨front, ending⟩ := eq_of_last_point has.last (by decide) cut
    refine concat_bracket_ne _ ('.' :: stem.toList ++ ".par".toList) (front.trans ?_)
    simp [has.toList_eq, ending]
  · rw [same] at letters
    refine concat_bracket_ne (name.toList ++ " (".toList ++ (Text.decimal attempt).toList)
      ('.' :: name.toList ++ ".par".toList) ?_
    simpa [stagingName] using letters

/-! ## Sizes of names -/

/-- A text has as many bytes as characters if each of them has one. -/
theorem utf8ByteSize_of_single {text : List Char} (single : ∀ c ∈ text, c.utf8Size = 1) :
    (String.ofList text).utf8ByteSize = text.length := by
  induction text with
  | nil => rfl
  | cons c rest ih =>
      obtain ⟨first, others⟩ := List.forall_mem_cons.mp single
      rw [String.ofList_cons, String.utf8ByteSize_append, String.utf8ByteSize_singleton, first,
        ih others, List.length_cons, Nat.add_comm]

theorem utf8Size_of_isDigit {c : Char} (digit : c.isDigit = true) : c.utf8Size = 1 := by
  simp only [Char.isDigit, Bool.and_eq_true, decide_eq_true_eq] at digit
  exact Char.utf8Size_eq_one_iff.mpr (UInt32.le_trans digit.2 (by decide))

/-- The number of an attempt has at most three digits. -/
theorem utf8ByteSize_decimal_le (few : attempt < 1000) :
    (Text.decimal attempt).utf8ByteSize ≤ 3 := by
  rw [Text.decimal, utf8ByteSize_of_single fun c mem =>
    utf8Size_of_isDigit (Text.isDigit_of_mem_toDigits mem)]
  exact (Nat.length_toDigits_le_iff (by decide) (by decide)).mpr few

theorem utf8ByteSize_stagingName (name : String) :
    (stagingName name).utf8ByteSize = name.utf8ByteSize + 6 := by
  simp only [stagingName, String.utf8ByteSize_append, show ".".utf8ByteSize = 1 from rfl,
    show ".part".utf8ByteSize = 5 from rfl]
  omega

/-- **No name that is tried is longer than the staging name.** -/
theorem utf8ByteSize_candidate_le (name : String) (few : attempt < 1000) :
    (candidate name attempt).utf8ByteSize ≤ (stagingName name).utf8ByteSize := by
  have digits := utf8ByteSize_decimal_le few
  rw [utf8ByteSize_stagingName]
  rcases candidate_cases name attempt with same | ⟨stem, extension, has, same⟩ | same
  · rw [same]
    omega
  · rw [same, has.whole]
    simp only [String.utf8ByteSize_append, show " (".utf8ByteSize = 2 from rfl,
      show ").".utf8ByteSize = 2 from rfl, show ".".utf8ByteSize = 1 from rfl]
    omega
  · rw [same]
    simp only [String.utf8ByteSize_append, show " (".utf8ByteSize = 2 from rfl,
      show ")".utf8ByteSize = 1 from rfl]
    omega

theorem utf8ByteSize_join_le {folder other : String} (component : Path.Component name)
    (componentOther : Path.Component other) (le : name.utf8ByteSize ≤ other.utf8ByteSize) :
    (Path.join folder name).utf8ByteSize ≤ (Path.join folder other).utf8ByteSize := by
  rw [Path.join, Path.join, component.isAbsolute_eq, componentOther.isAbsolute_eq,
    if_neg Bool.false_ne_true, if_neg Bool.false_ne_true]
  split <;> simp only [String.utf8ByteSize_append] <;> omega

/-! ## Names that fit -/

theorem nul_mem_stagingName : '\x00' ∈ (stagingName name).toList ↔ '\x00' ∈ name.toList := by
  simp [stagingName]

theorem nul_not_mem_candidate (noNul : '\x00' ∉ name.toList) (attempt : Nat) :
    '\x00' ∉ (candidate name attempt).toList := by
  have digits : '\x00' ∉ (Text.decimal attempt).toList := not_mem_decimal rfl attempt
  rcases candidate_cases name attempt with same | ⟨stem, extension, has, same⟩ | same
  · rw [same]
    exact noNul
  · rw [has.toList_eq] at noNul
    rw [same]
    simp [digits] at noNul ⊢
    exact noNul
  · rw [same]
    simp [digits, noNul]

/-- **Every name that is tried fits into the directory if the staging name does.** -/
theorem entryName_candidate {folder : String} (component : Path.Component name)
    (fits : EntryName folder (stagingName name)) (few : attempt < 1000) :
    EntryName folder (candidate name attempt) := by
  have shorter := utf8ByteSize_candidate_le name few
  have noNul : '\x00' ∉ name.toList := fun nul => fits.noNul (nul_mem_stagingName.mpr nul)
  refine ⟨nul_not_mem_candidate noNul attempt, Nat.le_trans shorter fits.short, ?_⟩
  exact Nat.le_trans (utf8ByteSize_join_le (component_candidate component attempt)
    (component_stagingName component) shorter) fits.shortPath

end PatternRefinement.Download
