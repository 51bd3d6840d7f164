import PatternRefinement.Proofs.FileTree.Creation
import PatternRefinement.Proofs.Workbench.Confinement

/-!
# State files outside the download directory

## Main Definitions

* `CounterStore.Way` — the way to a state file, as its path tells it
* `CounterStore.Outside` — a state file that is outside a directory

## Main Statements

* `CounterStore.Way.writable_iff` — a state file can be written if nothing is in the way to it
* `CounterStore.Outside.writable` — what happens in a directory leaves a state file outside it
  writable
* `CounterStore.Outside.delivered` — so does an archive that is saved there

## Design Notes

The archive is saved before the number is stored.  That a state file can be written before does not
say that it can be written then: the archive may stand where a directory above the state file would
have to be created, and the directory of the archive may be created in the place of the state file.
Both are excluded here, and nothing else can happen.
-/

namespace PatternRefinement.CounterStore

variable {store : CounterStore} {tree after : FileTree} {folder : String}

/-! ## When a state file can be written -/

/-- The way to a state file, as its path tells it: some names lead to the directory that the state
file has its name in, and another path leads there, too. -/
structure Way (store : CounterStore) (front : List String) (name parent : String) : Prop where
  split : Path.names store.path = front ++ [name]
  noDot : name ≠ "."
  noDots : name ≠ ".."
  unclosed : Path.endsWithSlash store.path = false
  short : name.utf8ByteSize ≤ FileTree.maxNameBytes
  followable : FileTree.Followable store.path
  parent_eq : Path.parent? store.path = some parent
  parentFollowable : FileTree.Followable parent

section Way

variable {front : List String} {name parent : String} (way : store.Way front name parent)

include way

theorem Way.makeParent_eq (tree : FileTree) :
    store.makeParent tree = tree.makeDirectories parent := by
  rw [makeParent, way.parent_eq]

theorem Way.destination_eq (tree : FileTree) : tree.destination store.path =
    front.foldl FileTree.step (tree.start store.path) ++ [name] := by
  rw [FileTree.destination, way.split, List.foldl_concat,
    FileTree.step_of_plain way.noDot way.noDots]

theorem Way.passes {start location : Location} (passes : FileTree.Passes start front location) :
    FileTree.Passes start (Path.names store.path) location := by
  rw [way.split]
  exact FileTree.passes_concat.mpr (Or.inl passes)

theorem Way.passes_destination (tree : FileTree) :
    FileTree.Passes (tree.start store.path) (Path.names store.path)
      (tree.destination store.path) := by
  rw [way.split, way.destination_eq]
  exact FileTree.passes_concat.mpr (Or.inr ⟨way.noDot, way.noDots, rfl⟩)

/-- Where the way can be followed, the state file has its place at the end. -/
theorem Way.filePlace_iff {directory location : Location}
    (walked : tree.walk (tree.start store.path) front = .ok directory) :
    tree.FilePlace store.path location ↔
      location = tree.destination store.path ∧ tree.node? location ≠ some .directory := by
  have located := FileTree.locate_of_walk way.followable way.split walked
  rw [FileTree.lastStep_some way.noDot way.noDots, way.unclosed] at located
  rw [way.destination_eq, ← FileTree.eq_foldl_step_of_walk walked]
  constructor
  · rintro ⟨⟨place, other, found, -, rfl⟩, noDirectory⟩
    rw [located] at found
    cases found
    exact ⟨rfl, noDirectory⟩
  · rintro ⟨rfl, noDirectory⟩
    exact ⟨⟨directory, name, located, way.short, rfl⟩, noDirectory⟩

/-- Nothing is in the way to a state file that can be written, and no directory stands in its place
or would have to be created there. -/
theorem Way.passable_of_writable (writable : store.Writable tree) :
    tree.Passable (tree.start store.path) front ∧
      tree.node? (tree.destination store.path) ≠ some .directory ∧
      ¬FileTree.Passes (tree.start store.path) front (tree.destination store.path) := by
  obtain ⟨prepared, file⟩ := writable
  rw [way.makeParent_eq] at prepared file
  have grown := tree.makeDirectories_grown parent
  obtain ⟨location, named⟩ := FileTree.directoryAt?_of_makeDirectories
    (Prod.ext rfl prepared : tree.makeDirectories parent = (_, .ok ()))
  have walked := FileTree.walk_of_parent way.split way.noDot way.parent_eq named
  obtain ⟨written, write⟩ := file .empty
  obtain ⟨place, filePlace, -⟩ := FileTree.write_eq_ok_iff.mp write
  obtain ⟨rfl, noDirectory⟩ := (way.filePlace_iff walked).mp filePlace
  rw [FileTree.destination_congr grown.workingDirectory_eq] at noDirectory
  rw [FileTree.start_congr grown.workingDirectory_eq] at walked
  refine ⟨⟨FileTree.short_of_walk walked, fun location passes content stands => ?_⟩,
    fun there => noDirectory (grown.keeps.directory _ there),
    fun passes => noDirectory (FileTree.directory_of_walk walked passes)⟩
  have created := FileTree.directory_of_walk walked passes
  rw [grown.file_iff.mpr stands] at created
  cases created

/-- Where nothing is in the way, the directories above the state file can be created. -/
theorem Way.writable_of_passable (passable : tree.Passable (tree.start store.path) front)
    (noDirectory : tree.node? (tree.destination store.path) ≠ some .directory)
    (apart : ¬FileTree.Passes (tree.start store.path) front (tree.destination store.path)) :
    store.Writable tree := by
  obtain ⟨made, done, changes⟩ := FileTree.makeDirectories_parent way.split way.noDot
    way.parent_eq way.parentFollowable passable
  have prepared : store.makeParent tree = (made, .ok ()) := (way.makeParent_eq tree).trans done
  obtain ⟨location, named⟩ := FileTree.directoryAt?_of_makeDirectories done
  have walked := FileTree.walk_of_parent way.split way.noDot way.parent_eq named
  have grown := tree.makeDirectories_grown parent
  rw [done] at grown
  have place : made.FilePlace store.path (tree.destination store.path) := by
    refine (way.filePlace_iff walked).mpr ⟨?_, ?_⟩
    · exact (FileTree.destination_congr grown.workingDirectory_eq store.path).symm
    · rwa [(changes _).resolve_right apart]
  refine ⟨by rw [prepared], fun content => ?_⟩
  rw [prepared]
  exact ⟨_, FileTree.write_eq_ok_iff.mpr ⟨_, place, rfl⟩⟩

/-- **A state file can be written if nothing is in the way to it**, and if no directory stands in
its place or would have to be created there. -/
theorem Way.writable_iff : store.Writable tree ↔
    tree.Passable (tree.start store.path) front ∧
      tree.node? (tree.destination store.path) ≠ some .directory ∧
      ¬FileTree.Passes (tree.start store.path) front (tree.destination store.path) :=
  ⟨way.passable_of_writable, fun ⟨passable, noDirectory, apart⟩ =>
    way.writable_of_passable passable noDirectory apart⟩

end Way

/-- There is a way to a state file that can be written. -/
theorem Writable.exists_way (writable : store.Writable tree) :
    ∃ front name parent, store.Way front name parent := by
  obtain ⟨prepared, file⟩ := writable
  obtain ⟨written, write⟩ := file .empty
  obtain ⟨location, place, -⟩ := FileTree.write_eq_ok_iff.mp write
  obtain ⟨directory, name, located, short, rfl⟩ := place.located
  obtain ⟨front, split, noDot, noDots, walked⟩ := FileTree.exists_names_of_locate located
  have followable := (FileTree.followable_of_locate located).1
  have unclosed : Path.endsWithSlash store.path = false := by
    rw [FileTree.locate_of_walk followable split walked, FileTree.lastStep_some noDot noDots]
      at located
    exact (FileTree.Destination.mk.inj (Except.ok.inj located)).2.2
  have parent_eq := Path.parent?_of_names split noDot
  unfold makeParent at prepared
  rw [parent_eq] at prepared
  obtain ⟨location, named⟩ := FileTree.directoryAt?_of_makeDirectories
    (Prod.ext rfl prepared : tree.makeDirectories _ = (_, .ok ()))
  exact ⟨front, name, _, split, noDot, noDots, unclosed, short, followable, parent_eq,
    (FileTree.directoryAt?_eq_some_iff.mp named).1⟩

/-! ## What happens in a directory -/

/-- A state file that is outside a directory: nothing on the way to it is an entry of the directory,
and it does not stand where the directory or one above it belongs. -/
structure Outside (store : CounterStore) (folder : String) (tree : FileTree) : Prop where
  apart : ∀ location, FileTree.Passes (tree.start store.path) (Path.names store.path) location →
    ∀ name, location ≠ tree.destination folder ++ [name]
  notAbove : ∀ path ∈ folder :: Path.ancestors folder,
    tree.destination path ≠ tree.destination store.path

section Confined

variable (outside : store.Outside folder tree) (keeps : tree.KeepsDirectories after)
  (confined : ∀ location, after.node? location = tree.node? location ∨
    Download.Inside folder tree after location)

include outside keeps confined

/-- On the way to the state file nothing changes but that directories of the way to the other
directory are created. -/
theorem Outside.changes {location : Location}
    (passes : FileTree.Passes (tree.start store.path) (Path.names store.path) location) :
    after.node? location = tree.node? location ∨
      tree.Created after (folder :: Path.ancestors folder) location := by
  rcases confined location with same | created | entry
  · exact Or.inl same
  · exact Or.inr created
  · obtain ⟨directory, name, named, -, rfl⟩ := entry
    refine absurd ?_ (outside.apart _ passes name)
    rw [FileTree.eq_destination_of_directoryAt? named,
      FileTree.destination_congr keeps.workingDirectory_eq]

/-- **What happens in the directory leaves a state file outside it writable.** -/
theorem Outside.writable (writable : store.Writable tree) : store.Writable after := by
  obtain ⟨front, name, parent, way⟩ := writable.exists_way
  obtain ⟨⟨short, noFile⟩, noDirectory, apart⟩ := way.writable_iff.mp writable
  have start_eq := FileTree.start_congr keeps.workingDirectory_eq store.path
  have destination_eq := FileTree.destination_congr keeps.workingDirectory_eq store.path
  rw [way.writable_iff, start_eq, destination_eq]
  refine ⟨⟨short, fun location passes content => ?_⟩, ?_, apart⟩
  · rcases outside.changes keeps confined (way.passes passes) with same | created
    · rw [same]
      exact noFile location passes content
    · rw [created.created]
      exact nofun
  · rcases outside.changes keeps confined (way.passes_destination tree) with same | created
    · rw [same]
      exact noDirectory
    · obtain ⟨path, above, named⟩ := created.named
      refine absurd ?_ (outside.notAbove path above)
      rw [FileTree.eq_destination_of_directoryAt? named,
        FileTree.destination_congr keeps.workingDirectory_eq]

end Confined

/-- **An archive that is saved leaves a state file outside its directory writable.** -/
theorem Outside.delivered (outside : store.Outside folder tree) (writable : store.Writable tree)
    {delivered : FileTree} (saved : delivered = tree ∨
      ∃ content name, delivered = (intoDirectory folder tree content name).1) :
    store.Writable delivered := by
  refine outside.writable ?_ (Workbench.delivered_confined saved) writable
  rcases saved with rfl | ⟨content, name, rfl⟩
  · exact (FileTree.SameDirectories.refl _).keeps
  · exact (tree.makeDirectories_grown folder).keeps.trans
      (Download.save_ending folder name content tree).sameDirectories.keeps

end PatternRefinement.CounterStore
