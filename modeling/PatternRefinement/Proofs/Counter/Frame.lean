import PatternRefinement.Proofs.Counter
import PatternRefinement.Proofs.FileTree.Directory

/-!
# What storing a number changes

## Main Definitions

* `CounterStore.directories` — the paths of the directories above the state file
* `CounterStore.Touched` — where storing a number may change something

## Main Statements

* `CounterStore.save_ending` — the two ways in which storing a number can end
* `CounterStore.save_frame` — nothing changes but the state file and missing directories above it
* `CounterStore.Writable.save` — a state file that can be written can be written again

## Design Notes

Storing a number never fails, but it may stop half-way: the directories above the state file may
have been created although nothing could be written.
-/

namespace PatternRefinement.CounterStore

variable {store : CounterStore} {tree after : FileTree} {location : Location}

/-- The paths of the directories above the state file. -/
def directories (store : CounterStore) : List String :=
  match Path.parent? store.path with
  | some parent => parent :: Path.ancestors parent
  | none => []

/-- A location where storing a number may change something: the place of the state file, or the
location of a directory that was missing above it. -/
def Touched (store : CounterStore) (tree after : FileTree) (location : Location) : Prop :=
  after.FilePlace store.path location ∨ tree.Created after store.directories location

theorem makeParent_createsOnly (store : CounterStore) (tree : FileTree) :
    tree.CreatesOnly (store.makeParent tree).1 store.directories := by
  unfold makeParent directories
  cases Path.parent? store.path with
  | none => exact .refl tree []
  | some parent => exact tree.makeDirectories_createsOnly parent

/-- Storing a number ends with the state file written, or with nothing done but the directories
above it. -/
theorem save_ending (store : CounterStore) (number : UInt32) (tree : FileTree) :
    store.save number tree = (store.makeParent tree).1 ∨
      ∃ location, (store.makeParent tree).1.FilePlace store.path location ∧
        store.save number tree = (store.makeParent tree).1.put location
          (.file (stateText ((store.readState? tree).getD []) number).toUTF8) := by
  unfold save
  cases store.makeParent tree with
  | mk prepared outcome =>
      cases outcome with
      | error e => exact Or.inl rfl
      | ok _ =>
          dsimp only
          split
          · rename_i written write
            obtain ⟨location, place, rfl⟩ := FileTree.write_eq_ok_iff.mp write
            exact Or.inr ⟨location, place, rfl⟩
          · exact Or.inl rfl

/-- Once the directories above the state file are there, no directory comes or goes. -/
theorem save_sameDirectories (store : CounterStore) (number : UInt32) (tree : FileTree) :
    (store.makeParent tree).1.SameDirectories (store.save number tree) := by
  rcases store.save_ending number tree with same | ⟨location, place, same⟩
  · rw [same]
    exact .refl _
  · rw [same]
    exact FileTree.sameDirectories_put place.ne_nil place.noDirectory _

/-- The directories of a tree stay when a number is stored. -/
theorem save_keeps (store : CounterStore) (number : UInt32) (tree : FileTree) :
    tree.KeepsDirectories (store.save number tree) :=
  (store.makeParent_createsOnly tree).grown.keeps.trans
    (store.save_sameDirectories number tree).keeps

/-- **Nothing changes but the state file and missing directories above it.** -/
theorem save_frame (store : CounterStore) (number : UInt32) (tree : FileTree)
    (location : Location) :
    (store.save number tree).node? location = tree.node? location ∨
      store.Touched tree (store.save number tree) location := by
  have created := store.makeParent_createsOnly tree
  have kept := store.save_sameDirectories number tree
  rcases store.save_ending number tree with same | ⟨place, filePlace, same⟩
  · rw [same]
    exact (created.changes location).imp_right Or.inr
  rw [same] at kept ⊢
  by_cases here : location = place
  · subst here
    exact Or.inr (Or.inl (kept.filePlace_iff.mpr filePlace))
  rw [FileTree.node?_put _ filePlace.ne_nil, if_neg here]
  exact (created.changes location).imp_right fun made => Or.inr (made.keeps kept.keeps)

/-- A file that is not the state file stays, with its content, and no other file comes. -/
theorem file_save_iff {store : CounterStore} {number : UInt32} {tree : FileTree}
    {location : Location} (apart : ¬(store.save number tree).FilePlace store.path location)
    (content : ByteArray) :
    (store.save number tree).node? location = some (.file content) ↔
      tree.node? location = some (.file content) := by
  rcases store.save_frame number tree location with same | place | created
  · rw [same]
  · exact absurd place apart
  · rw [created.missing, created.created]
    exact ⟨nofun, nofun⟩

/-- The directories above the state file are created once. -/
theorem makeParent_save {store : CounterStore} {tree : FileTree}
    (parent : (store.makeParent tree).2 = .ok ()) (number : UInt32) :
    store.makeParent (store.save number tree) = (store.save number tree, .ok ()) := by
  have kept := (store.save_sameDirectories number tree).keeps
  unfold makeParent at parent kept ⊢
  cases above : Path.parent? store.path with
  | none => rfl
  | some folder =>
      rw [above] at parent kept
      have done : tree.makeDirectories folder = ((tree.makeDirectories folder).1, .ok ()) :=
        Prod.ext rfl parent
      obtain ⟨location, named⟩ := FileTree.directoryAt?_of_makeDirectories done
      exact FileTree.makeDirectories_of_directoryAt? (kept.directoryAt? named)

/-- A state file that can be written can be written again. -/
theorem Writable.save {store : CounterStore} {tree : FileTree} (writable : store.Writable tree)
    (number : UInt32) : store.Writable (store.save number tree) := by
  have again := makeParent_save writable.parent number
  refine ⟨congrArg Prod.snd again, fun content => ?_⟩
  obtain ⟨written, done⟩ := writable.file content
  obtain ⟨location, place, -⟩ := FileTree.write_eq_ok_iff.mp done
  have still := (store.save_sameDirectories number tree).filePlace_iff.mpr place
  rw [again]
  exact ⟨_, FileTree.write_eq_ok_iff.mpr ⟨location, still, rfl⟩⟩

end PatternRefinement.CounterStore
