import PatternRefinement.Proofs.FileTree.Access
import PatternRefinement.Proofs.FileTree.Path

/-!
# Directories by their paths

## Main Definitions

* `FileTree.directoryAt?` — the directory that a path names
* `FileTree.EntryOf` — the location of an entry of the directory that a path names
* `FileTree.Created` — where a directory was created because some paths name it
* `FileTree.CreatesOnly` — a tree in which such directories are all that has changed

## Main Statements

* `directoryAt?_eq_some_iff` — a path names the directory that all its names lead to
* `FilePlace.of_join` — an entry of a directory has its place in that directory
* `filePlace_of_not_exists` — nothing stands at the place of an entry that is not there
* `makeDirectories_createsOnly` — creating directories changes nothing but the missing ones that a
  path needs
* `makeDirectories_of_directoryAt?` — and nothing at all if they are there

## Design Notes

A path whose last name is a dot or two dots is looked up in another way than one whose last name
belongs to an entry.  That is why the directory of a path is compared with following all its names,
where no name is special because it is the last one.
-/

namespace PatternRefinement.FileTree

variable {tree other : FileTree}

/-- The directory that a path names; the empty path names the working directory. -/
def directoryAt? (tree : FileTree) (path : String) : Option Location :=
  if path = "" then some tree.workingDirectory
  else
    match tree.status path with
    | .ok (location, .directory) => some location
    | _ => none

theorem directoryAt?_iff_status {path : String} {location : Location} (nonempty : path ≠ "") :
    tree.directoryAt? path = some location ↔ tree.status path = .ok (location, .directory) := by
  unfold directoryAt?
  rw [if_neg nonempty]
  split
  · rename_i place found
    simp [found]
  · rename_i other
    exact ⟨nofun, fun found => absurd found (other location)⟩

/-! ## Following all names of a path -/

/-- Where a path starts to be followed. -/
def start (tree : FileTree) (path : String) : Location :=
  if Path.isAbsolute path then [] else tree.workingDirectory

/-- A path that can be followed at all. -/
structure Followable (path : String) : Prop where
  noNul : '\x00' ∉ path.toList
  short : path.utf8ByteSize ≤ maxPathBytes

theorem followable_empty : Followable "" := ⟨by decide, by decide⟩

/-- What the last name of a path makes of the directory before it. -/
def lastStep (directory : Location) (closed : Bool) : Option String → Destination
  | none => ⟨directory, none, true⟩
  | some "." => ⟨directory, none, true⟩
  | some ".." => ⟨directory.dropLast, none, true⟩
  | some name => ⟨directory, some name, closed⟩

theorem lastStep_some {directory : Location} {closed : Bool} {name : String} (dot : name ≠ ".")
    (dots : name ≠ "..") :
    lastStep directory closed (some name) = ⟨directory, some name, closed⟩ := by
  unfold lastStep
  split <;> simp_all

theorem locate_of_followable {path : String} (followable : Followable path)
    (nonempty : path ≠ "") : tree.locate path =
      match tree.walk (tree.start path) (Path.names path).dropLast with
      | .error e => .error e
      | .ok directory =>
        .ok (lastStep directory (Path.endsWithSlash path) (Path.names path).getLast?) := by
  have noNul : ¬path.toList.contains '\x00' = true := by simpa using followable.noNul
  have notEmpty : ¬path.isEmpty = true := by simpa using nonempty
  unfold locate
  rw [if_neg noNul, if_neg notEmpty, if_neg (Nat.not_lt.mpr followable.short)]
  dsimp only
  rw [← start]
  cases tree.walk (tree.start path) (Path.names path).dropLast with
  | error e => rfl
  | ok directory =>
      dsimp only
      generalize (Path.names path).getLast? = last
      split
      · rfl
      · rfl
      · rfl
      · rename_i name dot dots
        rw [lastStep_some dot dots]

theorem followable_of_locate {path : String} {destination : Destination}
    (located : tree.locate path = .ok destination) : Followable path ∧ path ≠ "" := by
  unfold locate at located
  split at located
  · cases located
  rename_i noNul
  split at located
  · cases located
  rename_i notEmpty
  split at located
  · cases located
  rename_i short
  exact ⟨⟨by simpa using noNul, Nat.not_lt.mp short⟩, by simpa using notEmpty⟩

theorem followable_of_status {path : String} {found : Location × Node}
    (leads : tree.status path = .ok found) : Followable path := by
  unfold status at leads
  split at leads
  · cases leads
  · rename_i located
    exact (followable_of_locate located).1
  · rename_i located
    exact (followable_of_locate located).1

theorem walk_concat (location : Location) (names : List String) (name : String) :
    tree.walk location (names ++ [name]) =
      match tree.walk location names with
      | .ok next => tree.enter next name
      | .error e => .error e := by
  induction names generalizing location with
  | nil =>
      rw [List.nil_append, walk, walk]
      dsimp only
      cases tree.enter location name with
      | ok next => rfl
      | error e => rfl
  | cons first rest ih =>
      rw [List.cons_append, walk, walk]
      cases tree.enter location first with
      | ok next => exact ih next
      | error e => rfl

/-- The last step of a path leads to a directory where entering its last name does. -/
theorem status_lastStep {directory location : Location} {name : String} {closed : Bool}
    {path : String} (located : tree.locate path = .ok (lastStep directory closed (some name))) :
    tree.status path = .ok (location, .directory) ↔ tree.enter directory name = .ok location := by
  unfold status enter
  rw [located]
  by_cases dot : name = "."
  · simp [dot, lastStep]
  by_cases dots : name = ".."
  · simp [dots, lastStep]
  rw [lastStep_some dot dots, if_neg dot, if_neg dots]
  dsimp only
  unfold childAt
  by_cases long : maxNameBytes < name.utf8ByteSize
  · simp [long]
  rw [if_neg long, if_neg long]
  cases tree.node? (directory ++ [name]) with
  | none => simp
  | some node =>
      cases node with
      | directory => simp
      | file content => cases closed <;> simp

/-- **A path names the directory that all its names lead to.** -/
theorem directoryAt?_eq_some_iff {path : String} {location : Location} :
    tree.directoryAt? path = some location ↔
      Followable path ∧ tree.walk (tree.start path) (Path.names path) = .ok location := by
  by_cases empty : path = ""
  · subst empty
    have walked : tree.walk (tree.start "") (Path.names "") = .ok tree.workingDirectory := rfl
    simp [directoryAt?, walked, followable_empty]
  rw [directoryAt?_iff_status empty]
  by_cases followable : Followable path
  swap
  · exact ⟨fun found => absurd (followable_of_status found) followable,
      fun walked => absurd walked.1 followable⟩
  have located : tree.locate path = _ := locate_of_followable followable empty
  rw [and_iff_right followable]
  rcases List.eq_nil_or_concat (Path.names path) with none | ⟨front, last, split⟩
  · -- Nothing but slashes: the path names the root.
    rw [none] at located ⊢
    unfold status
    rw [located]
    simp [walk, lastStep]
  · rw [List.concat_eq_append] at split
    rw [split, List.dropLast_concat, List.getLast?_concat] at located
    rw [split, walk_concat]
    cases walked : tree.walk (tree.start path) front with
    | error e =>
        rw [walked] at located
        unfold status
        rw [located]
        exact ⟨nofun, nofun⟩
    | ok directory =>
        rw [walked] at located
        exact status_lastStep located

/-! ## Entries of a directory -/

/-- The location of an entry of the directory that a path names. -/
def EntryOf (tree : FileTree) (folder : String) (location : Location) : Prop :=
  ∃ directory name, tree.directoryAt? folder = some directory ∧ Path.Component name ∧
    location = directory ++ [name]

/-- The path of an entry starts to be followed where that of the directory does. -/
theorem start_join (tree : FileTree) (folder : String) {name : String}
    (component : Path.Component name) : tree.start (Path.join folder name) = tree.start folder := by
  rw [start, start, Path.isAbsolute_join folder component]

/-- **An entry of a directory has its place in that directory.** -/
theorem FilePlace.of_join {folder name : String} {location : Location}
    (component : Path.Component name) (place : tree.FilePlace (Path.join folder name) location) :
    ∃ directory, tree.directoryAt? folder = some directory ∧ location = directory ++ [name] := by
  obtain ⟨directory, other, located, -, rfl⟩ := place.located
  obtain ⟨followable, nonempty⟩ := followable_of_locate located
  rw [locate_of_followable followable nonempty, Path.names_join folder component,
    List.dropLast_concat, List.getLast?_concat] at located
  rw [tree.start_join folder component, Path.endsWithSlash_join folder component] at located
  cases walked : tree.walk (tree.start folder) (Path.names folder) with
  | error e =>
      rw [walked] at located
      cases located
  | ok found =>
      rw [walked] at located
      dsimp only at located
      rw [lastStep_some component.ne_dot component.ne_dots] at located
      cases located
      have inside : Followable folder :=
        ⟨fun nul => followable.noNul (Path.mem_join component nul),
          Nat.le_trans (Path.utf8ByteSize_le_join folder component) followable.short⟩
      exact ⟨directory, directoryAt?_eq_some_iff.mpr ⟨inside, walked⟩, rfl⟩

/-- A path that leads to nothing can be followed. -/
theorem followable_of_not_exists {path : String} (free : tree.exists? path = .ok false)
    (nonempty : path ≠ "") : Followable path := by
  have missing := status_of_not_exists free
  have notEmpty : ¬path.isEmpty = true := by simpa using nonempty
  unfold status locate at missing
  rw [if_neg notEmpty] at missing
  by_cases noNul : path.toList.contains '\x00' = true
  · rw [if_pos noNul] at missing
    cases missing
  by_cases long : maxPathBytes < path.utf8ByteSize
  · rw [if_neg noNul, if_pos long] at missing
    cases missing
  · exact ⟨by simpa using noNul, Nat.not_lt.mp long⟩

section Entry

variable {folder name : String} {directory : Location} (component : Path.Component name)
  (named : tree.directoryAt? folder = some directory)

include component named

/-- An entry of a directory that is there is looked up in it. -/
theorem locate_join (followable : Followable (Path.join folder name)) :
    tree.locate (Path.join folder name) = .ok ⟨directory, some name, false⟩ := by
  rw [locate_of_followable followable (Path.join_ne_empty folder component),
    Path.names_join folder component, List.dropLast_concat, List.getLast?_concat,
    tree.start_join folder component, (directoryAt?_eq_some_iff.mp named).2]
  dsimp only
  rw [lastStep_some component.ne_dot component.ne_dots, Path.endsWithSlash_join folder component]

/-- Nothing stands at the place of an entry that is not there. -/
theorem filePlace_of_not_exists (free : tree.exists? (Path.join folder name) = .ok false) :
    tree.FilePlace (Path.join folder name) (directory ++ [name]) ∧
      tree.node? (directory ++ [name]) = none := by
  have missing := status_of_not_exists free
  have located := locate_join component named
    (followable_of_not_exists free (Path.join_ne_empty folder component))
  unfold status at missing
  rw [located] at missing
  dsimp only at missing
  by_cases short : name.utf8ByteSize ≤ maxNameBytes
  swap
  · rw [childAt, if_pos (Nat.lt_of_not_le short)] at missing
    cases missing
  rw [childAt_eq_ok short] at missing
  cases here : tree.node? (directory ++ [name]) with
  | none => exact ⟨⟨⟨directory, name, located, short, rfl⟩, by rw [here]; exact nofun⟩, rfl⟩
  | some node =>
      rw [here] at missing
      cases node <;> cases missing

end Entry

/-- Two entries with the same place have the same name, however their directories are written. -/
theorem FilePlace.name_eq {folder folder' name name' : String} {location : Location}
    (place : tree.FilePlace (Path.join folder name) location)
    (place' : other.FilePlace (Path.join folder' name') location)
    (component : Path.Component name) (component' : Path.Component name') : name = name' := by
  obtain ⟨directory, -, same⟩ := place.of_join component
  obtain ⟨directory', -, same'⟩ := place'.of_join component'
  have both : directory ++ [name] = directory' ++ [name'] := same.symm.trans same'
  simpa using (List.append_inj' both rfl).2

theorem KeepsDirectories.directoryAt? (keeps : tree.KeepsDirectories other) {path : String}
    {location : Location} (named : tree.directoryAt? path = some location) :
    other.directoryAt? path = some location := by
  obtain ⟨followable, walked⟩ := directoryAt?_eq_some_iff.mp named
  refine directoryAt?_eq_some_iff.mpr ⟨followable, ?_⟩
  have start_eq : other.start path = tree.start path := by
    rw [start, start, keeps.workingDirectory_eq]
  rw [start_eq]
  exact keeps.walk walked

theorem KeepsDirectories.entryOf (keeps : tree.KeepsDirectories other) {folder : String}
    {location : Location} (entry : tree.EntryOf folder location) :
    other.EntryOf folder location := by
  obtain ⟨directory, name, named, component, same⟩ := entry
  exact ⟨directory, name, keeps.directoryAt? named, component, same⟩

theorem FilePlace.entryOf {folder name : String} {location : Location}
    (component : Path.Component name) (place : tree.FilePlace (Path.join folder name) location) :
    tree.EntryOf folder location := by
  obtain ⟨directory, named, same⟩ := place.of_join component
  exact ⟨directory, name, named, component, same⟩

/-! ## Creating directories -/

/-- A directory stands at a location where nothing stood before, because one of some paths names
it. -/
structure Created (tree made : FileTree) (paths : List String) (location : Location) : Prop where
  missing : tree.node? location = none
  created : made.node? location = some .directory
  named : ∃ path ∈ paths, made.directoryAt? path = some location

/-- Nothing has changed but that directories were created that some paths name. -/
structure CreatesOnly (tree made : FileTree) (paths : List String) : Prop where
  grown : tree.Grown made
  changes : ∀ location, made.node? location = tree.node? location ∨
    tree.Created made paths location

theorem Grown.keeps {made : FileTree} (grown : tree.Grown made) : tree.KeepsDirectories made := by
  refine ⟨grown.workingDirectory_eq, fun location here => ?_⟩
  rcases grown.node location with same | ⟨missing, -⟩
  · exact same.trans here
  · exact absurd (here.symm.trans missing) nofun

theorem Created.keeps {made later : FileTree} {paths : List String} {location : Location}
    (created : tree.Created made paths location) (keeps : made.KeepsDirectories later) :
    tree.Created later paths location := by
  obtain ⟨path, mem, named⟩ := created.named
  exact ⟨created.missing, keeps.directory location created.created, path, mem,
    keeps.directoryAt? named⟩

theorem CreatesOnly.refl (tree : FileTree) (paths : List String) : tree.CreatesOnly tree paths :=
  ⟨Grown.refl tree, fun _ => Or.inl rfl⟩

theorem CreatesOnly.subset {made : FileTree} {few many : List String}
    (creates : tree.CreatesOnly made few) (subset : few ⊆ many) : tree.CreatesOnly made many := by
  refine ⟨creates.grown, fun location => (creates.changes location).imp_right fun created => ?_⟩
  obtain ⟨path, mem, named⟩ := created.named
  exact ⟨created.missing, created.created, path, subset mem, named⟩

theorem CreatesOnly.trans {a b c : FileTree} {paths : List String} (ab : a.CreatesOnly b paths)
    (bc : b.CreatesOnly c paths) : a.CreatesOnly c paths := by
  refine ⟨ab.grown.trans bc.grown, fun location => ?_⟩
  rcases bc.changes location with same | later
  · rcases ab.changes location with unchanged | created
    · exact Or.inl (same.trans unchanged)
    · exact Or.inr (created.keeps bc.grown.keeps)
  · rcases ab.changes location with unchanged | created
    · exact Or.inr ⟨unchanged ▸ later.missing, later.created, later.named⟩
    · exact absurd (created.created.symm.trans later.missing) nofun

/-- Creating a directory puts it where nothing stood, and then the path names it. -/
theorem of_makeDirectory_eq_ok {made : FileTree} {path : String}
    (done : tree.makeDirectory path = .ok made) :
    ∃ location, location ≠ [] ∧ tree.node? location = none ∧ made = tree.put location .directory ∧
      path ≠ "" ∧ made.directoryAt? path = some location := by
  have grown := makeDirectory_grown done
  unfold makeDirectory at done
  split at done
  · cases done
  · cases done
  rename_i directory name closed located
  split at done
  · cases done
  · cases done
  rename_i place child
  obtain ⟨short, rfl, missing⟩ := of_childAt_eq_ok child
  cases done
  have nonempty := (followable_of_locate located).2
  have inside : directory ++ [name] ≠ [] := by simp
  refine ⟨directory ++ [name], inside, missing.symm, rfl, nonempty, ?_⟩
  rw [directoryAt?_iff_status nonempty]
  unfold status
  rw [grown.keeps.locate located]
  dsimp only
  rw [childAt_eq_ok short, node?_put tree inside, if_pos rfl]

theorem makeDirectory_createsOnly {made : FileTree} {path : String}
    (done : tree.makeDirectory path = .ok made) : tree.CreatesOnly made [path] := by
  refine ⟨makeDirectory_grown done, fun location => ?_⟩
  obtain ⟨place, inside, missing, rfl, -, named⟩ := of_makeDirectory_eq_ok done
  by_cases here : location = place
  · subst here
    refine Or.inr ⟨missing, ?_, path, List.mem_singleton_self path, named⟩
    rw [node?_put tree inside, if_pos rfl]
  · refine Or.inl ?_
    rw [node?_put tree inside, if_neg here]

theorem ensureDirectory_createsOnly (tree : FileTree) (path : String) :
    tree.CreatesOnly (tree.ensureDirectory path).1 [path] := by
  unfold ensureDirectory
  split
  · rename_i made
    exact makeDirectory_createsOnly made
  · exact CreatesOnly.refl tree [path]

theorem makeAscending_createsOnly (tree : FileTree) (paths : List String) :
    tree.CreatesOnly (tree.makeAscending paths).1 paths := by
  induction paths generalizing tree with
  | nil => exact CreatesOnly.refl tree []
  | cons path above ih =>
      have ensure (tree : FileTree) : tree.CreatesOnly (tree.ensureDirectory path).1
          (path :: above) := (ensureDirectory_createsOnly tree path).subset (by simp)
      have ascend (tree : FileTree) : tree.CreatesOnly (tree.makeAscending above).1
          (path :: above) := (ih tree).subset (List.subset_cons_self path above)
      have first := ensure tree
      unfold makeAscending
      split
      · rename_i unchanged ensured
        rw [ensured] at first
        have rest := first.trans (ascend unchanged)
        split
        · rename_i changed made
          rw [made] at rest
          exact rest.trans (ensure changed)
        · rename_i changed error made
          rw [made] at rest
          exact rest
      · exact first

/-- **Creating directories changes nothing but the missing ones that a path needs**: its own, and
those above it. -/
theorem makeDirectories_createsOnly (tree : FileTree) (path : String) :
    tree.CreatesOnly (tree.makeDirectories path).1 (path :: Path.ancestors path) := by
  unfold makeDirectories
  split
  · exact CreatesOnly.refl tree _
  · exact makeAscending_createsOnly tree _

/-! ## Directories that are there -/

/-- Where creating a directory succeeds, the path names a directory afterwards. -/
theorem directoryAt?_of_ensureDirectory {made : FileTree} {path : String}
    (done : tree.ensureDirectory path = (made, .ok ())) :
    path ≠ "" ∧ ∃ location, made.directoryAt? path = some location := by
  unfold ensureDirectory at done
  split at done
  · rename_i changed created
    obtain ⟨rfl, -⟩ := Prod.mk.inj done
    obtain ⟨location, -, -, -, nonempty, named⟩ := of_makeDirectory_eq_ok created
    exact ⟨nonempty, location, named⟩
  · rename_i error refused
    obtain ⟨rfl, outcome⟩ := Prod.mk.inj done
    split at outcome
    swap
    · cases outcome
    rename_i there
    unfold isDirectory at there
    split at there
    swap
    · cases there
    rename_i location leads
    have nonempty : path ≠ "" := by
      rintro rfl
      cases leads
    exact ⟨nonempty, location, (directoryAt?_iff_status nonempty).mpr leads⟩

/-- A directory that is there is not created again. -/
theorem ensureDirectory_of_directoryAt? {path : String} {location : Location}
    (nonempty : path ≠ "") (named : tree.directoryAt? path = some location) :
    tree.ensureDirectory path = (tree, .ok ()) := by
  have leads := (directoryAt?_iff_status nonempty).mp named
  have there : tree.isDirectory path = true := by rw [isDirectory, leads]
  have refused : tree.makeDirectory path = .error .exists := by
    unfold status at leads
    unfold makeDirectory
    cases located : tree.locate path with
    | error e =>
        rw [located] at leads
        cases leads
    | ok destination =>
        obtain ⟨directory, name?, closed⟩ := destination
        cases name? with
        | none => rfl
        | some name =>
            rw [located] at leads
            dsimp only at leads ⊢
            -- Whether the name leads to anything is asked in the same way by both.
            cases child : tree.childAt directory name with
            | error e =>
                rw [child] at leads
                cases leads
            | ok found =>
                obtain ⟨place, node?⟩ := found
                cases node? with
                | some node => rfl
                | none =>
                    rw [child] at leads
                    cases leads
  rw [ensureDirectory, refused]
  dsimp only
  rw [if_pos there]

theorem directoryAt?_of_makeAscending {made : FileTree} {path : String} {above : List String}
    (done : tree.makeAscending (path :: above) = (made, .ok ())) :
    ∃ location, made.directoryAt? path = some location := by
  unfold makeAscending at done
  split at done
  · split at done
    · exact (directoryAt?_of_ensureDirectory done).2
    · cases done
  · exact (directoryAt?_of_ensureDirectory done).2

/-- Where creating directories succeeds, the path names a directory afterwards. -/
theorem directoryAt?_of_makeDirectories {made : FileTree} {path : String}
    (done : tree.makeDirectories path = (made, .ok ())) :
    ∃ location, made.directoryAt? path = some location := by
  unfold makeDirectories at done
  split at done
  · rename_i empty
    obtain rfl : path = "" := by simpa using empty
    exact ⟨made.workingDirectory, rfl⟩
  · exact directoryAt?_of_makeAscending done

/-- **Directories that are there are not created again.** -/
theorem makeDirectories_of_directoryAt? {path : String} {location : Location}
    (named : tree.directoryAt? path = some location) :
    tree.makeDirectories path = (tree, .ok ()) := by
  by_cases empty : path = ""
  · subst empty
    rfl
  · have notEmpty : ¬path.isEmpty = true := by simpa using empty
    rw [makeDirectories, if_neg notEmpty, makeAscending,
      ensureDirectory_of_directoryAt? empty named]

end PatternRefinement.FileTree
