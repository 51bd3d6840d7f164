import PatternRefinement.Proofs.FileTree.Creation

/-!
# Entries of a directory that is there

## Main Definitions

* `FileTree.EntryName` — a name that an entry of a directory can have

## Main Statements

* `FileTree.filePlace_join_iff` — where an entry of a directory can be a file
* `FileTree.exists?_join` — whether there is an entry is what stands in the directory
* `FileTree.node?_entry_of_makeDirectories` — a directory that does not lead upwards is created
  without entries

## Design Notes

What a path of an entry leads to is looked up in the tree, along the whole path.  Once the directory
is known, nothing but the name of the entry counts, and what stands in the directory.
-/

namespace PatternRefinement.FileTree

open PatternRefinement.Path (Component)

variable {tree : FileTree} {folder name : String} {directory location : Location}

/-! ## Names of entries -/

/-- A name that an entry of a directory can have. -/
structure EntryName (folder name : String) : Prop where
  noNul : '\x00' ∉ name.toList
  short : name.utf8ByteSize ≤ maxNameBytes
  shortPath : (Path.join folder name).utf8ByteSize ≤ maxPathBytes

theorem followable_join_iff (component : Component name) (followable : Followable folder) :
    Followable (Path.join folder name) ↔
      '\x00' ∉ name.toList ∧ (Path.join folder name).utf8ByteSize ≤ maxPathBytes := by
  obtain ⟨slash, same, added⟩ := Path.exists_join folder component
  have between : '\x00' ∉ slash.toList := by
    rcases added with rfl | ⟨rfl, -⟩ <;> decide
  constructor
  · rintro ⟨noNul, short⟩
    refine ⟨fun nul => noNul ?_, short⟩
    rw [same, String.toList_append]
    exact List.mem_append_right _ nul
  · rintro ⟨noNul, short⟩
    refine ⟨?_, short⟩
    rw [same]
    simp [followable.noNul, between, noNul]

section Entry

variable (component : Component name) (named : tree.directoryAt? folder = some directory)

include component named

/-- A name that an entry can have is looked up in the directory. -/
theorem locate_of_entryName (fits : EntryName folder name) :
    tree.locate (Path.join folder name) = .ok ⟨directory, some name, false⟩ := by
  have followable := (directoryAt?_eq_some_iff.mp named).1
  exact locate_join component named
    ((followable_join_iff component followable).mpr ⟨fits.noNul, fits.shortPath⟩)

/-- **An entry of a directory can be a file** if its name and its path are not too long and no
directory stands in its place. -/
theorem filePlace_join_iff : tree.FilePlace (Path.join folder name) location ↔
    EntryName folder name ∧ location = directory ++ [name] ∧
      tree.node? (directory ++ [name]) ≠ some .directory := by
  constructor
  · intro place
    obtain ⟨found, other, located, short, rfl⟩ := place.located
    have followable := (followable_of_locate located).1
    rw [locate_join component named followable] at located
    cases located
    have parts :=
      (followable_join_iff component (directoryAt?_eq_some_iff.mp named).1).mp followable
    exact ⟨⟨parts.1, short, parts.2⟩, rfl, place.noDirectory⟩
  · rintro ⟨fits, rfl, noDirectory⟩
    exact ⟨⟨directory, name, locate_of_entryName component named fits, fits.short, rfl⟩,
      noDirectory⟩

/-- **Whether there is an entry is what stands in the directory.** -/
theorem exists?_join (fits : EntryName folder name) :
    tree.exists? (Path.join folder name) = .ok (tree.node? (directory ++ [name])).isSome := by
  unfold exists? status
  rw [locate_of_entryName component named fits]
  dsimp only
  rw [childAt_eq_ok fits.short]
  cases tree.node? (directory ++ [name]) with
  | none => rfl
  | some node => cases node <;> rfl

end Entry

/-! ## Created directories -/

/-- Names that do not lead upwards lead further down. -/
theorem prefix_foldl_step {names : List String} (down : ".." ∉ names) (start : Location) :
    start <+: names.foldl step start := by
  induction names generalizing start with
  | nil => exact List.prefix_rfl
  | cons name rest ih =>
      obtain ⟨here, behind⟩ := List.ne_and_not_mem_of_not_mem_cons down
      rw [List.foldl_cons]
      refine List.IsPrefix.trans ?_ (ih behind (step start name))
      rw [step, if_neg here.symm]
      split
      · exact List.prefix_rfl
      · exact List.prefix_append start [name]

/-- A directory above one that does not lead upwards is on the way to it. -/
theorem prefix_of_mem_ancestors {path : String} (down : ".." ∉ Path.names folder)
    (mem : path ∈ folder :: Path.ancestors folder)
    (above : tree.directoryAt? path = some location)
    (named : tree.directoryAt? folder = some directory) : location <+: directory := by
  rcases List.mem_cons.mp mem with rfl | ancestor
  · obtain rfl := Option.some.inj (above.symm.trans named)
    exact List.prefix_rfl
  have segments : ∀ name ∈ Path.significantNames folder, Path.Segment name := by
    rw [Path.significantNames_eq]
    exact fun name inside => Path.segment_of_mem_names (Path.significant_subset _ _ inside)
  obtain ⟨k, rfl⟩ : ∃ k,
      Path.ofNames (Path.isAbsolute folder) ((Path.significantNames folder).take k) = path := by
    obtain ⟨names, kept, rfl⟩ := List.mem_map.mp ancestor
    obtain ⟨k, -, rfl⟩ := List.mem_map.mp (List.mem_filter.mp kept).1
    exact ⟨k, rfl⟩
  have first : ∀ name ∈ (Path.significantNames folder).take k, Path.Segment name :=
    fun name inside => segments name (List.mem_of_mem_take inside)
  have walked := walk_of_directoryAt?_ofNames first above
  have whole := (directoryAt?_eq_some_iff.mp named).2
  rw [← tree.walk_significant _ (Path.isAbsolute folder), ← Path.significantNames_eq] at whole
  rw [start_ofNames tree _ first, ← start] at walked
  rw [eq_foldl_step_of_walk walked, eq_foldl_step_of_walk whole]
  conv_rhs => rw [← List.take_append_drop k (Path.significantNames folder), List.foldl_append]
  refine prefix_foldl_step (fun upward => down ?_) _
  rw [Path.significantNames_eq] at upward
  exact Path.significant_subset _ _ (List.mem_of_mem_drop upward)

/-- **A directory that does not lead upwards is created without entries**, and one that is there
keeps those that it has. -/
theorem node?_entry_of_makeDirectories {prepared : FileTree} (down : ".." ∉ Path.names folder)
    (made : tree.makeDirectories folder = (prepared, .ok ()))
    (named : prepared.directoryAt? folder = some directory) (name : String) :
    prepared.node? (directory ++ [name]) = tree.node? (directory ++ [name]) := by
  have creates := tree.makeDirectories_createsOnly folder
  rw [made] at creates
  rcases creates.changes (directory ++ [name]) with same | created
  · exact same
  · obtain ⟨path, mem, above⟩ := created.named
    have short := (prefix_of_mem_ancestors down mem above named).length_le
    rw [List.length_append, List.length_singleton] at short
    omega

end PatternRefinement.FileTree
