import PatternRefinement.Proofs.FileTree.Way

/-!
# Directories that can be created

## Main Definitions

* `FileTree.ChangesAlong` — nothing has changed but on the way along some names

## Main Statements

* `FileTree.makeDirectories_of_passable` — directories can be created if nothing is in the way, and
  all that changes is on the way
* `FileTree.makeDirectories_parent` — so can the directory above a path, if nothing is in the way
  to it
* `FileTree.walk_of_parent` — then the path can be followed up to its last name

## Design Notes

A directory is created after the nearest one above it that is missing, and so on.  The proof goes
the other way: it starts at the root and adds one name after the other, because whether a name can
be entered depends on those before it only.
-/

namespace PatternRefinement.FileTree

variable {tree : FileTree}

/-! ## Creating directories -/

/-- Nothing has changed but on the way along some names. -/
def ChangesAlong (tree made : FileTree) (start : Location) (names : List String) : Prop :=
  ∀ location, made.node? location = tree.node? location ∨ Passes start names location

theorem ChangesAlong.refl (tree : FileTree) (start : Location) (names : List String) :
    tree.ChangesAlong tree start names := fun _ => Or.inl rfl

theorem ChangesAlong.trans_concat {middle made : FileTree} {start : Location}
    {names : List String} {name : String} (before : tree.ChangesAlong middle start names)
    (later : middle.ChangesAlong made start (names ++ [name])) :
    tree.ChangesAlong made start (names ++ [name]) := by
  intro location
  rcases later location with same | passes
  · rw [same]
    exact (before location).imp_right fun passes => passes_concat.mpr (Or.inl passes)
  · exact Or.inr passes

section Creating

variable {path name : String} {front : List String}

theorem ne_empty_of_names (split : Path.names path = front ++ [name]) : path ≠ "" := by
  rintro rfl
  rw [Path.names_empty] at split
  simp at split

/-- A path is looked up where its names lead up to the last one. -/
theorem locate_of_walk {directory : Location} (followable : Followable path)
    (split : Path.names path = front ++ [name])
    (walked : tree.walk (tree.start path) front = .ok directory) :
    tree.locate path = .ok (lastStep directory (Path.endsWithSlash path) (some name)) := by
  rw [locate_of_followable followable (ne_empty_of_names split), split, List.dropLast_concat,
    List.getLast?_concat, walked]

/-- A path that leads to a name in a directory leads to that directory up to its last name. -/
theorem exists_names_of_locate {directory : Location} {closed : Bool}
    (located : tree.locate path = .ok ⟨directory, some name, closed⟩) :
    ∃ front, Path.names path = front ++ [name] ∧ name ≠ "." ∧ name ≠ ".." ∧
      tree.walk (tree.start path) front = .ok directory := by
  obtain ⟨followable, nonempty⟩ := followable_of_locate located
  rcases List.eq_nil_or_concat (Path.names path) with none | ⟨front, last, split⟩
  · rw [locate_of_followable followable nonempty, none] at located
    cases located
  rw [List.concat_eq_append] at split
  rw [locate_of_followable followable nonempty, split, List.dropLast_concat,
    List.getLast?_concat] at located
  split at located
  · cases located
  rename_i place walked
  unfold lastStep at located
  split at located
  · cases located
  · cases located
  · cases located
  · rename_i other noDot noDots same
    obtain rfl := Option.some.inj same
    cases located
    exact ⟨front, split, noDot, noDots, walked⟩

/-- A directory can be created if the one above it is there and nothing is in the way. -/
theorem ensureDirectory_of_walk (followable : Followable path)
    (split : Path.names path = front ++ [name])
    (passable : tree.Passable (tree.start path) (front ++ [name]))
    (walked : tree.walk (tree.start path) front = .ok (front.foldl step (tree.start path))) :
    ∃ made, tree.ensureDirectory path = (made, .ok ()) ∧
      tree.ChangesAlong made (tree.start path) (front ++ [name]) := by
  rcases passable.enter with entered | ⟨noDot, noDots, missing, -⟩
  · have followed : ∃ next, tree.walk (tree.start path) (Path.names path) = .ok next := by
      rw [split, walk_concat, walked]
      exact ⟨_, entered⟩
    obtain ⟨next, followed⟩ := followed
    have named := directoryAt?_eq_some_iff.mpr ⟨followable, followed⟩
    exact ⟨tree, ensureDirectory_of_directoryAt? (ne_empty_of_names split) named, .refl tree _ _⟩
  · have located := locate_of_walk followable split walked
    rw [lastStep_some noDot noDots] at located
    have made : tree.makeDirectory path =
        .ok (tree.put (front.foldl step (tree.start path) ++ [name]) .directory) := by
      unfold makeDirectory
      rw [located]
      dsimp only
      rw [childAt_eq_ok (passable.short name (by simp)), missing]
    refine ⟨_, by rw [ensureDirectory, made], fun location => ?_⟩
    rw [node?_put tree (by simp)]
    split
    · rename_i here
      exact Or.inr (passes_concat.mpr (Or.inr ⟨noDot, noDots, here⟩))
    · exact Or.inl rfl

/-- A directory is not created before those above it. -/
theorem ensureDirectory_of_notFound (followable : Followable path)
    (split : Path.names path = front ++ [name])
    (missing : tree.walk (tree.start path) front = .error .notFound) :
    tree.ensureDirectory path = (tree, .error .notFound) := by
  have located : tree.locate path = .error .notFound := by
    rw [locate_of_followable followable (ne_empty_of_names split), split, List.dropLast_concat,
      missing]
  have refused : tree.makeDirectory path = .error .notFound := by
    unfold makeDirectory
    rw [located]
  have noDirectory : tree.isDirectory path = false := by
    unfold isDirectory status
    rw [located]
  rw [ensureDirectory, refused]
  dsimp only
  rw [noDirectory, if_neg Bool.false_ne_true]

end Creating

theorem start_ofNames (tree : FileTree) (absolute : Bool) {names : List String}
    (segments : ∀ name ∈ names, Path.Segment name) :
    tree.start (Path.ofNames absolute names) = if absolute then [] else tree.workingDirectory := by
  rw [start, Path.isAbsolute_ofNames absolute segments]

theorem Followable.of_concat {absolute : Bool} {names : List String} {name : String}
    (followable : Followable (Path.ofNames absolute (names ++ [name]))) :
    Followable (Path.ofNames absolute names) := by
  obtain ⟨behind, same⟩ := Path.exists_ofNames_concat absolute names name
  obtain ⟨noNul, short⟩ := followable
  rw [same, String.toList_append] at noNul
  rw [same, String.utf8ByteSize_append] at short
  exact ⟨fun nul => noNul (List.mem_append_left _ nul), Nat.le_trans (Nat.le_add_right _ _) short⟩

theorem makeAscending_of_ensured {made : FileTree} {path : String} (above : List String)
    (ensured : tree.ensureDirectory path = (made, .ok ())) :
    tree.makeAscending (path :: above) = (made, .ok ()) := by
  unfold makeAscending
  rw [ensured]

theorem makeAscending_of_notFound {middle : FileTree} {path : String} {above : List String}
    (missing : tree.ensureDirectory path = (tree, .error .notFound))
    (ascended : tree.makeAscending above = (middle, .ok ())) :
    tree.makeAscending (path :: above) = middle.ensureDirectory path := by
  unfold makeAscending
  rw [missing]
  dsimp only
  rw [ascended]

/-- The names that a path is made of can be followed if it names a directory. -/
theorem walk_of_directoryAt?_ofNames {absolute : Bool} {names : List String} {location : Location}
    (segments : ∀ name ∈ names, Path.Segment name)
    (named : tree.directoryAt? (Path.ofNames absolute names) = some location) :
    tree.walk (tree.start (Path.ofNames absolute names)) names = .ok location := by
  have walked := (directoryAt?_eq_some_iff.mp named).2
  rwa [Path.names_ofNames absolute segments] at walked

/-- Directories that are missing above a path are created before it. -/
theorem makeAscending_concat_of_notFound {absolute : Bool} {names : List String} {name : String}
    {middle : FileTree} (segments : ∀ other ∈ names ++ [name], Path.Segment other)
    (followable : Followable (Path.ofNames absolute (names ++ [name])))
    (passable : tree.Passable (tree.start (Path.ofNames absolute (names ++ [name])))
      (names ++ [name]))
    (missing : tree.ensureDirectory (Path.ofNames absolute (names ++ [name])) =
      (tree, .error .notFound))
    (ascended : tree.makeAscending (Path.ofNames absolute names :: Path.above absolute names) =
      (middle, .ok ())) :
    ∃ made, tree.makeAscending (Path.ofNames absolute (names ++ [name]) ::
        Path.ofNames absolute names :: Path.above absolute names) = (made, .ok ()) ∧
      middle.ChangesAlong made (tree.start (Path.ofNames absolute (names ++ [name])))
        (names ++ [name]) := by
  have inner : ∀ other ∈ names, Path.Segment other :=
    fun other mem => segments other (List.mem_append_left [name] mem)
  have grown : tree.Grown middle := by
    have grown := tree.makeAscending_grown (Path.ofNames absolute names ::
      Path.above absolute names)
    rwa [ascended] at grown
  have same_start : middle.start (Path.ofNames absolute (names ++ [name])) =
      tree.start (Path.ofNames absolute (names ++ [name])) :=
    start_congr grown.workingDirectory_eq _
  have upper_start : middle.start (Path.ofNames absolute names) =
      tree.start (Path.ofNames absolute (names ++ [name])) := by
    rw [← same_start, middle.start_ofNames absolute segments, middle.start_ofNames absolute inner]
  obtain ⟨location, named⟩ := directoryAt?_of_makeAscending ascended
  have walked := walk_of_directoryAt?_ofNames inner named
  rw [upper_start, ← same_start] at walked
  obtain rfl := eq_foldl_step_of_walk walked
  obtain ⟨made, done, changes⟩ := ensureDirectory_of_walk followable
    (Path.names_ofNames absolute segments) (same_start ▸ passable.grown grown) walked
  refine ⟨made, ?_, same_start ▸ changes⟩
  rw [makeAscending_of_notFound missing ascended, done]

theorem makeAscending_of_passable (absolute : Bool) {names : List String}
    (segments : ∀ name ∈ names, Path.Segment name)
    (followable : Followable (Path.ofNames absolute names))
    (nonempty : Path.ofNames absolute names ≠ "")
    (passable : tree.Passable (tree.start (Path.ofNames absolute names)) names) :
    ∃ made, tree.makeAscending (Path.ofNames absolute names :: Path.above absolute names) =
        (made, .ok ()) ∧
      tree.ChangesAlong made (tree.start (Path.ofNames absolute names)) names := by
  induction names using List.reverseRecOn with
  | nil =>
      obtain rfl : absolute = true := by
        cases absolute with
        | true => rfl
        | false => exact absurd rfl nonempty
      have named : tree.directoryAt? (Path.ofNames true []) = some [] :=
        directoryAt?_eq_some_iff.mpr ⟨followable, rfl⟩
      exact ⟨tree, makeAscending_of_ensured _ (ensureDirectory_of_directoryAt? nonempty named),
        .refl tree _ _⟩
  | append_singleton names name ih =>
      have inner : ∀ other ∈ names, Path.Segment other :=
        fun other mem => segments other (List.mem_append_left [name] mem)
      have split := Path.names_ofNames absolute segments
      rcases passable.of_concat.walk with walked | missing
      · obtain ⟨made, done, changes⟩ := ensureDirectory_of_walk followable split passable walked
        exact ⟨made, makeAscending_of_ensured _ done, changes⟩
      -- What is missing is a directory above, so there is one.
      have some_above : names ≠ [] := by
        rintro rfl
        cases missing
      have upper_nonempty : Path.ofNames absolute names ≠ "" := by
        intro empty
        have upper_names := Path.names_ofNames absolute inner
        rw [empty] at upper_names
        exact some_above upper_names.symm
      have start_eq : tree.start (Path.ofNames absolute (names ++ [name])) =
          tree.start (Path.ofNames absolute names) := by
        rw [tree.start_ofNames absolute segments, tree.start_ofNames absolute inner]
      obtain ⟨middle, ascended, before⟩ :=
        ih inner followable.of_concat upper_nonempty (start_eq ▸ passable.of_concat)
      obtain ⟨made, done, changes⟩ := makeAscending_concat_of_notFound segments followable passable
        (ensureDirectory_of_notFound followable split missing) ascended
      have above_eq : Path.above absolute (names ++ [name]) =
          Path.ofNames absolute names :: Path.above absolute names := by
        rw [Path.above_concat, if_pos (by simp [some_above])]
        rfl
      rw [above_eq]
      exact ⟨made, done, (start_eq ▸ before).trans_concat changes⟩

/-- **Directories can be created if nothing is in the way**, and all that changes is on the way. -/
theorem makeDirectories_of_passable (absolute : Bool) {names : List String}
    (segments : ∀ name ∈ names, Path.Segment name)
    (settled : Path.significant absolute names = names)
    (followable : Followable (Path.ofNames absolute names))
    (passable : tree.Passable (tree.start (Path.ofNames absolute names)) names) :
    ∃ made, tree.makeDirectories (Path.ofNames absolute names) = (made, .ok ()) ∧
      tree.ChangesAlong made (tree.start (Path.ofNames absolute names)) names := by
  by_cases empty : Path.ofNames absolute names = ""
  · rw [empty]
    exact ⟨tree, rfl, .refl tree _ _⟩
  · have notEmpty : ¬(Path.ofNames absolute names).isEmpty = true := by simpa using empty
    rw [makeDirectories, if_neg notEmpty, Path.ancestors_ofNames absolute segments settled]
    exact makeAscending_of_passable absolute segments followable empty passable

/-! ## The directory above a path -/

section Parent

variable {path folder name : String} {front : List String}

theorem Passable.significant {start : Location} {absolute : Bool} {names : List String}
    (passable : tree.Passable start names) :
    tree.Passable start (Path.significant absolute names) :=
  ⟨fun name mem => passable.short name (Path.significant_subset absolute names mem),
    fun location passes => passable.noFile location (passes_significant passes)⟩

/-- The directory above a path is made of the names up to the last one, which are then the way to
it. -/
theorem parent_of_names (split : Path.names path = front ++ [name]) (noDot : name ≠ ".")
    (parent : Path.parent? path = some folder) :
    ∃ absolute, folder = Path.ofNames absolute (Path.significant absolute front) ∧
      (∀ other ∈ Path.significant absolute front, Path.Segment other) ∧
      ∀ tree : FileTree, tree.start folder = tree.start path := by
  have segments : ∀ other ∈ Path.significant (Path.isAbsolute path) front,
      Path.Segment other := by
    intro other mem
    have along : other ∈ Path.names path := by
      rw [split]
      exact List.mem_append_left [name] (Path.significant_subset _ _ mem)
    exact Path.segment_of_mem_names along
  rw [Path.parent?_of_names split noDot] at parent
  obtain rfl := Option.some.inj parent
  refine ⟨Path.isAbsolute path, rfl, segments, fun tree => ?_⟩
  rw [tree.start_ofNames _ segments, start]

/-- If the directory above a path is there, the path can be followed up to its last name. -/
theorem walk_of_parent {location : Location} (split : Path.names path = front ++ [name])
    (noDot : name ≠ ".") (parent : Path.parent? path = some folder)
    (named : tree.directoryAt? folder = some location) :
    tree.walk (tree.start path) front = .ok (front.foldl step (tree.start path)) := by
  obtain ⟨absolute, rfl, segments, same_start⟩ := parent_of_names split noDot parent
  have walked := walk_of_directoryAt?_ofNames segments named
  rw [same_start, walk_significant] at walked
  obtain rfl := eq_foldl_step_of_walk walked
  exact walked

/-- **The directory above a path can be created if nothing is in the way to it.** -/
theorem makeDirectories_parent (split : Path.names path = front ++ [name]) (noDot : name ≠ ".")
    (parent : Path.parent? path = some folder) (followable : Followable folder)
    (passable : tree.Passable (tree.start path) front) :
    ∃ made, tree.makeDirectories folder = (made, .ok ()) ∧
      tree.ChangesAlong made (tree.start path) front := by
  obtain ⟨absolute, rfl, segments, same_start⟩ := parent_of_names split noDot parent
  obtain ⟨made, done, changes⟩ := makeDirectories_of_passable absolute segments
    (Path.significant_significant absolute front) followable
    (same_start tree ▸ passable.significant)
  refine ⟨made, done, fun location => (changes location).imp_right fun passes => ?_⟩
  rw [same_start] at passes
  exact passes_significant passes

end Parent

end PatternRefinement.FileTree
