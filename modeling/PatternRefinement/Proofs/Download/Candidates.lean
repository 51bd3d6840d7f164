import Mathlib.Data.List.Nodup
import PatternRefinement.Proofs.Download.Outcome

/-!
# The names that are tried go together

## Main Statements

* `Download.candidate_injective` — no name is tried twice
* `Download.exists_taken_of_write` — behind an archive that has been written every name can be
  looked for, and be given to it if it is free
* `Download.candidates_sound` — what holds of all names that are tried

## Design Notes

The numbered names are one text with a number in it, and that text alone has more bytes than the
name.  So whether the name has an extension does not matter here any more.
-/

namespace PatternRefinement.Download

open PatternRefinement.FileTree (EntryName)
open PatternRefinement.Path (Component)

/-! ## Names apart -/

/-- The numbered names are one text with a number in it, which has more bytes than the name. -/
theorem exists_numbered (name : String) : ∃ front behind : String,
    name.utf8ByteSize < front.utf8ByteSize + behind.utf8ByteSize ∧
      ∀ attempt, 1 ≤ attempt →
        candidate name attempt = front ++ Text.decimal attempt ++ behind := by
  have bracket : " (".utf8ByteSize = 2 := rfl
  by_cases has : ∃ stem extension, HasExtension name stem extension
  · obtain ⟨stem, extension, has⟩ := has
    refine ⟨stem ++ " (", ")." ++ extension, ?_, fun attempt numbered => ?_⟩
    · rw [has.whole]
      simp only [String.utf8ByteSize_append, bracket, show ").".utf8ByteSize = 2 from rfl,
        show ".".utf8ByteSize = 1 from rfl]
      omega
    · rw [candidate_of_extension has numbered]
      simp only [String.append_assoc]
  · refine ⟨name ++ " (", ")", ?_, fun attempt numbered => candidate_of_no_extension has numbered⟩
    simp only [String.utf8ByteSize_append, bracket, show ")".utf8ByteSize = 1 from rfl]
    omega

/-- **No name is tried twice.** -/
theorem candidate_injective (name : String) : Function.Injective (candidate name) := by
  obtain ⟨front, behind, longer, numbered⟩ := exists_numbered name
  have apart {attempt : Nat} (positive : 1 ≤ attempt) : candidate name attempt ≠ name := by
    intro same
    have size := congrArg String.utf8ByteSize (numbered attempt positive)
    rw [same, String.utf8ByteSize_append, String.utf8ByteSize_append] at size
    omega
  intro first second same
  rcases Nat.eq_zero_or_pos first with rfl | positive <;>
    rcases Nat.eq_zero_or_pos second with rfl | later
  · rfl
  · exact absurd same.symm (apart later)
  · exact absurd same (apart positive)
  · rw [numbered first positive, numbered second later, String.append_left_inj,
      String.append_right_inj] at same
    exact Text.decimal_injective same

theorem nodup_candidates (name : String) : (candidates name).Nodup :=
  List.Nodup.map (candidate_injective name) List.nodup_range

/-! ## Names that can be given -/

variable {name folder : String} {tree staged : FileTree} {content : ByteArray}

/-- **Behind an archive that has been written every name can be looked for.**  The archive takes
none of them, and it can be moved to each one that is free. -/
theorem exists_taken_of_write (component : Component name)
    (write : tree.write (Path.join folder (stagingName name)) content = .ok staged)
    {attempt : Nat} (few : attempt < 1000) :
    EntryName folder (candidate name attempt) ∧ ∃ taken,
      tree.exists? (Path.join folder (candidate name attempt)) = .ok taken ∧
      staged.exists? (Path.join folder (candidate name attempt)) = .ok taken ∧
      (taken = false → ∃ moved, staged.rename (Path.join folder (stagingName name))
        (Path.join folder (candidate name attempt)) = .ok moved) := by
  obtain ⟨location, place, -⟩ := FileTree.write_eq_ok_iff.mp write
  obtain ⟨directory, named, -⟩ := place.of_join (component_stagingName component)
  have written := staged_of_write component named write
  have fits := entryName_candidate component written.fits few
  refine ⟨fits, (tree.node? (directory ++ [candidate name attempt])).isSome, ?_,
    written.exists?_candidate component few, fun free => ?_⟩
  · exact FileTree.exists?_join (component_candidate component attempt) named fits
  · exact written.exists_rename component few
      (Option.isNone_iff_eq_none.mp (Option.isSome_eq_false_iff.mp free))

/-- **The names that are tried go together.**  Whatever an archive is to be called, they are a
thousand different names, none of them the staging name, each one component of a path, and none
longer than the staging name.  So once the archive has been written none is refused for its length:
each is found to be taken exactly if it was before, and one that is not can be given to the
archive. -/
theorem candidates_sound (raw : String) :
    (candidates (safeName raw)).length = 1000 ∧ (candidates (safeName raw)).Nodup ∧
    (∀ tried ∈ candidates (safeName raw), tried ≠ stagingName (safeName raw) ∧ Component tried ∧
      tried.utf8ByteSize ≤ (stagingName (safeName raw)).utf8ByteSize) ∧
    ∀ (folder : String) (tree staged : FileTree) (content : ByteArray),
      tree.write (Path.join folder (stagingName (safeName raw))) content = .ok staged →
      ∀ tried ∈ candidates (safeName raw), EntryName folder tried ∧ ∃ taken,
        tree.exists? (Path.join folder tried) = .ok taken ∧
        staged.exists? (Path.join folder tried) = .ok taken ∧
        (taken = false → ∃ moved, staged.rename (Path.join folder (stagingName (safeName raw)))
          (Path.join folder tried) = .ok moved) := by
  have component := component_safeName raw
  refine ⟨by simp [candidates, maxAttempts], nodup_candidates _, fun tried mem => ?_,
    fun folder tree staged content write tried mem => ?_⟩
  · obtain ⟨attempt, few, rfl⟩ := List.mem_map.mp mem
    exact ⟨candidate_ne_stagingName _ attempt, component_candidate component attempt,
      utf8ByteSize_candidate_le _ (List.mem_range.mp few)⟩
  · obtain ⟨attempt, few, rfl⟩ := List.mem_map.mp mem
    exact exists_taken_of_write component write (List.mem_range.mp few)

/-- With three digits a name is as long as the staging name, which ends in another way. -/
example : (candidate "x" 100).utf8ByteSize = (stagingName "x").utf8ByteSize := by decide

end PatternRefinement.Download
