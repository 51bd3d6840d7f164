import PatternRefinement.FileTree.Access

/-!
# What an access changes

## Main Definitions

* `FileTree.FilePlace` — the location of the regular file that a path leads to or could lead to
* `FileTree.SameDirectories` — two trees with the same directories, so that paths are followed in
  them in the same way
* `FileTree.Grown` — a tree with nothing but directories added to another one

## Main Statements

* `status_eq_file_iff`, `write_eq_ok_iff` — reading and writing a file, by its place
* `status_write` — a file that was written is found, with its content
* `makeDirectories_grown` — creating directories changes nothing that was there

## Design Notes

Following a path asks of every location on its way only whether a directory stands there.  So a
change that adds or removes regular files leaves the place of every path as it is, and what it does
to other paths can be read off the locations that it changes.
-/

namespace PatternRefinement.FileTree

/-! ## Places of files -/

/-- The place of a path: the location of the regular file that stands there or could be put
there. -/
structure FilePlace (tree : FileTree) (path : String) (location : Location) : Prop where
  located : ∃ directory name, tree.locate path = .ok ⟨directory, some name, false⟩ ∧
    name.utf8ByteSize ≤ maxNameBytes ∧ location = directory ++ [name]
  noDirectory : tree.node? location ≠ some .directory

theorem FilePlace.ne_nil {tree : FileTree} {path : String} {location : Location}
    (place : tree.FilePlace path location) : location ≠ [] := by
  obtain ⟨directory, name, -, -, rfl⟩ := place.located
  exact List.append_ne_nil_of_right_ne_nil _ (List.cons_ne_nil _ _)

/-- A path has one place at most. -/
theorem FilePlace.unique {tree : FileTree} {path : String} {a b : Location}
    (first : tree.FilePlace path a) (second : tree.FilePlace path b) : a = b := by
  obtain ⟨directory, name, located, -, rfl⟩ := first.located
  obtain ⟨directory', name', located', -, rfl⟩ := second.located
  rw [located] at located'
  cases located'
  rfl

theorem childAt_eq_ok {tree : FileTree} {directory : Location} {name : String}
    (short : name.utf8ByteSize ≤ maxNameBytes) : tree.childAt directory name =
      .ok (directory ++ [name], tree.node? (directory ++ [name])) :=
  if_neg (Nat.not_lt.mpr short)

theorem of_childAt_eq_ok {tree : FileTree} {directory location : Location} {name : String}
    {node? : Option Node} (h : tree.childAt directory name = .ok (location, node?)) :
    name.utf8ByteSize ≤ maxNameBytes ∧ location = directory ++ [name] ∧
      node? = tree.node? location := by
  unfold childAt at h
  split at h
  · cases h
  · rename_i short
    cases h
    exact ⟨Nat.not_lt.mp short, rfl, rfl⟩

/-- A path leads to a regular file if one stands at its place. -/
theorem status_eq_file_iff {tree : FileTree} {path : String} {location : Location}
    {content : ByteArray} : tree.status path = .ok (location, .file content) ↔
      tree.FilePlace path location ∧ tree.node? location = some (.file content) := by
  constructor
  · intro h
    unfold status at h
    split at h
    · cases h
    · cases h
    · rename_i directory name closed located
      split at h
      · cases h
      · cases h
      · cases h
      · rename_i place found child
        obtain ⟨short, rfl, node⟩ := of_childAt_eq_ok child
        split at h
        · cases h
        · rename_i notClosed
          obtain rfl : closed = false := by simpa using notClosed
          cases h
          refine ⟨⟨⟨directory, name, located, short, rfl⟩, ?_⟩, node.symm⟩
          rw [← node]
          exact nofun
  · rintro ⟨⟨⟨directory, name, located, short, rfl⟩, -⟩, node⟩
    unfold status
    rw [located]
    dsimp only
    rw [childAt_eq_ok short, node]
    rfl

/-- What is read is what stands at the place of a path. -/
theorem read_eq_ok_iff {tree : FileTree} {path : String} {content : ByteArray} :
    tree.read path = .ok content ↔
      ∃ location, tree.FilePlace path location ∧ tree.node? location = some (.file content) := by
  constructor
  · intro h
    unfold read at h
    split at h
    · cases h
    · cases h
    · rename_i location found leads
      cases h
      exact ⟨location, status_eq_file_iff.mp leads⟩
  · rintro ⟨location, stands⟩
    rw [read, status_eq_file_iff.mpr stands]

theorem status_of_not_exists {tree : FileTree} {path : String}
    (free : tree.exists? path = .ok false) : tree.status path = .error .notFound := by
  unfold exists? at free
  split at free
  · cases free
  · assumption
  · cases free

/-- A path leads to nothing if nothing stands at its place. -/
theorem exists?_of_missing {tree : FileTree} {path : String} {location : Location}
    (place : tree.FilePlace path location) (missing : tree.node? location = none) :
    tree.exists? path = .ok false := by
  obtain ⟨⟨directory, name, located, short, rfl⟩, -⟩ := place
  unfold exists? status
  rw [located]
  dsimp only
  rw [childAt_eq_ok short, missing]

/-- A path can be written if it has a place, and then the file is put there. -/
theorem write_eq_ok_iff {tree written : FileTree} {path : String} {content : ByteArray} :
    tree.write path content = .ok written ↔
      ∃ location, tree.FilePlace path location ∧ written = tree.put location (.file content) := by
  constructor
  · intro h
    unfold write at h
    split at h
    · cases h
    · cases h
    · rename_i directory name closed located
      split at h
      · cases h
      · rename_i notClosed
        obtain rfl : closed = false := by simpa using notClosed
        split at h
        · cases h
        · cases h
        · rename_i place node? free child
          obtain ⟨short, rfl, node⟩ := of_childAt_eq_ok child
          cases h
          refine ⟨_, ⟨⟨directory, name, located, short, rfl⟩, fun same => ?_⟩, rfl⟩
          exact free (node.trans same)
  · rintro ⟨location, ⟨⟨directory, name, located, short, rfl⟩, noDirectory⟩, rfl⟩
    unfold write
    rw [located]
    dsimp only
    rw [childAt_eq_ok short, if_neg Bool.false_ne_true]
    split
    · rename_i same
      cases same
    · rename_i same
      obtain ⟨-, same⟩ := Prod.mk.inj (Except.ok.inj same)
      exact absurd same noDirectory
    · rename_i same
      obtain ⟨rfl, -⟩ := Prod.mk.inj (Except.ok.inj same)
      rfl

/-! ## Following a path in another tree -/

/-- Every directory of a tree is one of another tree with the same working directory. -/
structure KeepsDirectories (tree other : FileTree) : Prop where
  workingDirectory_eq : other.workingDirectory = tree.workingDirectory
  directory : ∀ location, tree.node? location = some .directory →
    other.node? location = some .directory

/-- Two trees with the same directories. -/
structure SameDirectories (tree other : FileTree) : Prop where
  keeps : tree.KeepsDirectories other
  kept : other.KeepsDirectories tree

theorem KeepsDirectories.trans {a b c : FileTree} (ab : a.KeepsDirectories b)
    (bc : b.KeepsDirectories c) : a.KeepsDirectories c :=
  ⟨bc.workingDirectory_eq.trans ab.workingDirectory_eq,
    fun location here => bc.directory location (ab.directory location here)⟩

theorem SameDirectories.refl (tree : FileTree) : tree.SameDirectories tree :=
  ⟨⟨rfl, fun _ => id⟩, ⟨rfl, fun _ => id⟩⟩

theorem SameDirectories.symm {a b : FileTree} (same : a.SameDirectories b) : b.SameDirectories a :=
  ⟨same.kept, same.keeps⟩

theorem SameDirectories.trans {a b c : FileTree} (ab : a.SameDirectories b)
    (bc : b.SameDirectories c) : a.SameDirectories c :=
  ⟨ab.keeps.trans bc.keeps, bc.kept.trans ab.kept⟩

variable {tree other : FileTree}

theorem KeepsDirectories.enter (keeps : tree.KeepsDirectories other) {location next : Location}
    {name : String} (h : tree.enter location name = .ok next) :
    other.enter location name = .ok next := by
  unfold FileTree.enter at h ⊢
  split at h
  · rename_i dot
    rw [if_pos dot]
    exact h
  rename_i notDot
  rw [if_neg notDot]
  split at h
  · rename_i dots
    rw [if_pos dots]
    exact h
  rename_i notDots
  rw [if_neg notDots]
  split at h
  · cases h
  rename_i short
  rw [if_neg short]
  split at h
  · cases h
  · cases h
  · rename_i here
    rw [keeps.directory _ here]
    exact h

theorem KeepsDirectories.walk (keeps : tree.KeepsDirectories other) {location next : Location}
    {names : List String} (h : tree.walk location names = .ok next) :
    other.walk location names = .ok next := by
  induction names generalizing location with
  | nil => exact h
  | cons name rest ih =>
      unfold FileTree.walk at h ⊢
      split at h
      · rename_i entered
        rw [keeps.enter entered]
        exact ih h
      · cases h

/-- A path that can be followed leads to the same destination in a tree with more directories. -/
theorem KeepsDirectories.locate (keeps : tree.KeepsDirectories other) {path : String}
    {destination : Destination} (h : tree.locate path = .ok destination) :
    other.locate path = .ok destination := by
  unfold FileTree.locate at h ⊢
  rw [keeps.workingDirectory_eq]
  split at h
  · cases h
  rename_i noNul
  rw [if_neg noNul]
  split at h
  · cases h
  rename_i notEmpty
  rw [if_neg notEmpty]
  split at h
  · cases h
  rename_i short
  rw [if_neg short]
  dsimp only at h ⊢
  split at h
  · cases h
  · rename_i walked
    rw [keeps.walk walked]
    exact h

theorem FilePlace.of_keeps {path : String} {location : Location}
    (place : tree.FilePlace path location) (keeps : tree.KeepsDirectories other)
    (noDirectory : other.node? location ≠ some .directory) : other.FilePlace path location := by
  obtain ⟨directory, name, located, short, same⟩ := place.located
  exact ⟨⟨directory, name, keeps.locate located, short, same⟩, noDirectory⟩

/-- Trees with the same directories have the same places. -/
theorem SameDirectories.filePlace_iff (same : tree.SameDirectories other) {path : String}
    {location : Location} : other.FilePlace path location ↔ tree.FilePlace path location := by
  constructor
  · intro place
    exact place.of_keeps same.kept fun here => place.noDirectory (same.keeps.directory _ here)
  · intro place
    exact place.of_keeps same.keeps fun here => place.noDirectory (same.kept.directory _ here)

/-! ## Changes of files -/

/-- Putting a file where no directory stands leaves the directories alone. -/
theorem sameDirectories_put {location : Location} (nonempty : location ≠ [])
    (noDirectory : tree.node? location ≠ some .directory) (content : ByteArray) :
    tree.SameDirectories (tree.put location (.file content)) := by
  refine ⟨⟨rfl, fun place here => ?_⟩, ⟨rfl, fun place here => ?_⟩⟩
  · have apart : place ≠ location := fun same => noDirectory (same ▸ here)
    rw [node?_put tree nonempty, if_neg apart]
    exact here
  · rw [node?_put tree nonempty] at here
    split at here
    · cases here
    · exact here

/-- Erasing what is no directory leaves the directories alone. -/
theorem sameDirectories_erase {location : Location} (nonempty : location ≠ [])
    (noDirectory : tree.node? location ≠ some .directory) :
    tree.SameDirectories (tree.erase location) := by
  refine ⟨⟨rfl, fun place here => ?_⟩, ⟨rfl, fun place here => ?_⟩⟩
  · have apart : place ≠ location := fun same => noDirectory (same ▸ here)
    rw [node?_erase tree nonempty, if_neg apart]
    exact here
  · rw [node?_erase tree nonempty] at here
    split at here
    · cases here
    · exact here

/-- A file that was written is found, with its content. -/
theorem status_write {written : FileTree} {path : String} {content : ByteArray}
    (h : tree.write path content = .ok written) : ∃ location, tree.FilePlace path location ∧
      written = tree.put location (.file content) ∧
      written.status path = .ok (location, .file content) := by
  obtain ⟨location, place, rfl⟩ := write_eq_ok_iff.mp h
  have same := sameDirectories_put place.ne_nil place.noDirectory content
  refine ⟨location, place, rfl, status_eq_file_iff.mpr ⟨same.filePlace_iff.mpr place, ?_⟩⟩
  rw [node?_put tree place.ne_nil, if_pos rfl]

/-- **What was written is read.** -/
theorem read_write {written : FileTree} {path : String} {content : ByteArray}
    (h : tree.write path content = .ok written) : written.read path = .ok content := by
  obtain ⟨location, -, -, found⟩ := status_write h
  rw [read, found]

/-- Removing takes away the file that a path leads to. -/
theorem remove_eq_ok_iff {removed : FileTree} {path : String} :
    tree.remove path = .ok removed ↔ ∃ location content, tree.FilePlace path location ∧
      tree.node? location = some (.file content) ∧ removed = tree.erase location := by
  constructor
  · intro h
    unfold remove at h
    split at h
    · cases h
    · cases h
    · rename_i location content found
      obtain ⟨place, node⟩ := status_eq_file_iff.mp found
      exact ⟨location, content, place, node, (Except.ok.inj h).symm⟩
  · rintro ⟨location, content, place, node, rfl⟩
    rw [remove, status_eq_file_iff.mpr ⟨place, node⟩]

/-! ## Creating directories -/

/-- A tree with nothing but directories added to another one. -/
structure Grown (tree grown : FileTree) : Prop where
  workingDirectory_eq : grown.workingDirectory = tree.workingDirectory
  node : ∀ location, grown.node? location = tree.node? location ∨
    tree.node? location = none ∧ grown.node? location = some .directory

theorem Grown.refl (tree : FileTree) : tree.Grown tree :=
  ⟨rfl, fun _ => Or.inl rfl⟩

theorem Grown.trans {a b c : FileTree} (ab : a.Grown b) (bc : b.Grown c) : a.Grown c := by
  refine ⟨bc.workingDirectory_eq.trans ab.workingDirectory_eq, fun location => ?_⟩
  rcases bc.node location with same | ⟨missing, added⟩
  · rw [same]
    exact ab.node location
  · rcases ab.node location with same | ⟨_, there⟩
    · exact Or.inr ⟨same ▸ missing, added⟩
    · exact absurd (missing.symm.trans there) nofun

/-- The files are the same. -/
theorem Grown.file_iff {grown : FileTree} (h : tree.Grown grown) {location : Location}
    {content : ByteArray} : grown.node? location = some (.file content) ↔
      tree.node? location = some (.file content) := by
  rcases h.node location with same | ⟨missing, added⟩
  · rw [same]
  · rw [missing, added]
    exact ⟨nofun, nofun⟩

theorem makeDirectory_grown {made : FileTree} {path : String}
    (h : tree.makeDirectory path = .ok made) : tree.Grown made := by
  unfold makeDirectory at h
  split at h
  · cases h
  · cases h
  · split at h
    · cases h
    · cases h
    · rename_i place child
      obtain ⟨-, rfl, missing⟩ := of_childAt_eq_ok child
      cases h
      refine ⟨rfl, fun location => ?_⟩
      rw [node?_put tree (List.append_ne_nil_of_right_ne_nil _ (List.cons_ne_nil _ _))]
      split
      · rename_i same
        subst same
        exact Or.inr ⟨missing.symm, rfl⟩
      · exact Or.inl rfl

theorem ensureDirectory_grown (tree : FileTree) (path : String) :
    tree.Grown (tree.ensureDirectory path).1 := by
  unfold ensureDirectory
  split
  · rename_i made
    exact makeDirectory_grown made
  · exact Grown.refl tree

theorem makeAscending_grown (tree : FileTree) (paths : List String) :
    tree.Grown (tree.makeAscending paths).1 := by
  induction paths generalizing tree with
  | nil => exact Grown.refl tree
  | cons path above ih =>
      have first := ensureDirectory_grown tree path
      unfold makeAscending
      split
      · rename_i unchanged ensured
        rw [ensured] at first
        have rest := first.trans (ih unchanged)
        split
        · rename_i changed made
          rw [made] at rest
          exact rest.trans (ensureDirectory_grown changed path)
        · rename_i changed error made
          rw [made] at rest
          exact rest
      · exact first

/-- **Creating directories changes nothing that was there**, whether it succeeds or not. -/
theorem makeDirectories_grown (tree : FileTree) (path : String) :
    tree.Grown (tree.makeDirectories path).1 := by
  unfold makeDirectories
  split
  · exact Grown.refl tree
  · exact makeAscending_grown tree _

end PatternRefinement.FileTree
