import PatternRefinement.Proofs.Download.Ending
import PatternRefinement.Proofs.Download.SafeNames
import PatternRefinement.Proofs.FileTree.MadePath

/-!
# The name that an archive is given

## Main Statements

* `Download.name_of_save` — an archive is given one of the names that are tried, and a free one
* `Download.save_first` — it is given the first one of them if that is free
* `Download.fileName?_of_save` — so it keeps its own name exactly if that is safe and free

## Design Notes

Whether a name is free is asked when the archive has been written under its staging name already.
The staging name is longer than the first name that is tried, so asking then is asking before.
-/

namespace PatternRefinement

/-- A file that is put into a directory under one name takes no other name in it. -/
theorem FileTree.not_exists_put {tree : FileTree} {folder name other : String} {location : Location}
    (component : Path.Component name) (free : tree.exists? (Path.join folder name) = .ok false)
    (componentOther : Path.Component other)
    (place : tree.FilePlace (Path.join folder other) location) (apart : name ≠ other)
    (content : ByteArray) :
    (tree.put location (.file content)).exists? (Path.join folder name) = .ok false := by
  obtain ⟨directory, named, -⟩ := place.of_join componentOther
  obtain ⟨placeFree, missing⟩ := filePlace_of_not_exists component named free
  have same := sameDirectories_put place.ne_nil place.noDirectory content
  refine exists?_of_missing (same.filePlace_iff.mpr placeFree) ?_
  have elsewhere : directory ++ [name] ≠ location := by
    rintro rfl
    exact apart (placeFree.name_eq place component componentOther)
  rw [node?_put tree place.ne_nil, if_neg elsewhere]
  exact missing

namespace Download

variable {folder rawName path : String} {content : ByteArray} {tree : FileTree}

theorem ne_stagingName (name : String) : name ≠ stagingName name := by
  intro same
  have longer := congrArg (·.toList.length) same
  simp [stagingName] at longer
  omega

/-- **An archive is given one of the names that are tried**, and one that nothing had. -/
theorem name_of_save (saved : (save folder tree content rawName).2 = .ok path) :
    ∃ name ∈ candidates (safeName rawName), path = Path.join folder name ∧
      (tree.makeDirectories folder).1.exists? path = .ok false := by
  have ending := save_ending folder rawName content tree
  generalize save folder tree content rawName = result at ending saved
  cases ending with
  | unwritten prepared_eq noPlace => cases saved
  | discarded made staged => cases saved
  | @settled prepared staging target name made staged tried place free apart =>
      obtain rfl := Except.ok.inj saved
      rw [made]
      exact ⟨name, tried, rfl, FileTree.exists?_of_missing place free⟩

/-- The search for a free name ends with the first one if nothing has it. -/
theorem freePath?_candidates {name : String}
    (free : tree.exists? (Path.join folder name) = .ok false) :
    freePath? tree folder (candidates name) = .ok (some (Path.join folder name)) := by
  obtain ⟨numbered, tried⟩ := exists_candidates_eq name
  rw [tried]
  unfold freePath?
  rw [free]

/-- **An archive is given the first name that is tried if nothing has it.** -/
theorem save_first (saved : (save folder tree content rawName).2 = .ok path)
    (free : (tree.makeDirectories folder).1.exists? (Path.join folder (safeName rawName)) =
      .ok false) : path = Path.join folder (safeName rawName) := by
  have component := component_safeName rawName
  revert saved
  unfold save
  dsimp only
  split
  · exact nofun
  rename_i prepared made
  rw [made] at free
  split
  · exact nofun
  rename_i staged write
  obtain ⟨staging, place, rfl⟩ := FileTree.write_eq_ok_iff.mp write
  have still := FileTree.not_exists_put component free (component_stagingName component) place
    (ne_stagingName _) content
  unfold settle
  rw [freePath?_candidates still]
  dsimp only
  split
  · exact nofun
  · intro saved
    exact (Except.ok.inj saved).symm

/-- **An archive keeps its name exactly if the name is safe and nothing else has it.** -/
theorem fileName?_of_save (saved : (save folder tree content rawName).2 = .ok path) :
    Path.fileName? path = some rawName ↔ Safe rawName ∧
      (tree.makeDirectories folder).1.exists? (Path.join folder rawName) = .ok false := by
  constructor
  · intro kept
    obtain ⟨name, tried, rfl, free⟩ := name_of_save saved
    obtain ⟨attempt, -, rfl⟩ := List.mem_map.mp tried
    have safe := (safe_safeName rawName).candidate attempt
    rw [Path.fileName?_join folder safe.toComponent] at kept
    obtain same := Option.some.inj kept
    rw [same] at safe free
    exact ⟨safe, free⟩
  · rintro ⟨safe, free⟩
    rw [← safe.safeName_eq] at free
    rw [save_first saved free, safe.safeName_eq, Path.fileName?_join folder safe.toComponent]

end Download

end PatternRefinement
