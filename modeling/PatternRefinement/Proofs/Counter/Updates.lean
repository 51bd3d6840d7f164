import PatternRefinement.Proofs.Counter.Frame
import PatternRefinement.Proofs.Json.WithoutDoubles

/-!
# Updates of the state file

## Main Definitions

* `CounterStore.Update`, `CounterStore.applyAll` — changes of the stored number, one and many
* `CounterStore.Lasting` — members that are read as they were written
* `CounterStore.Stable` — a state file that holds no object with doubles

## Main Statements

* `CounterStore.Stable.readState?_save` — what is read from a state file that was written
* `CounterStore.stored?_applyAll` — only the last change counts
* `CounterStore.save_updates_state` — storing a number changes the number and nothing else

## Design Notes

A number is stored by reading the whole state file, changing one member and writing all of them.
The other members survive this if they are read as they were written.  Doubles need not be, and so
the statements about other members and about many changes are about states without doubles.
-/

namespace PatternRefinement

open Json (Value)

namespace CounterStore

/-! ## Changes -/

/-- A change of the stored number. -/
inductive Update where
  | save (number : UInt32)
  | reset

/-- The number that is stored. -/
def Update.number : Update → UInt32
  | .save number => number
  | .reset => firstRefinement

/-- The files after a change. -/
def apply (store : CounterStore) (tree : FileTree) : Update → FileTree
  | .save number => store.save number tree
  | .reset => store.reset tree

/-- The files after changes, one after the other. -/
def applyAll (store : CounterStore) (tree : FileTree) (updates : List Update) : FileTree :=
  updates.foldl store.apply tree

theorem apply_eq_save (store : CounterStore) (tree : FileTree) (update : Update) :
    store.apply tree update = store.save update.number tree := by
  cases update <;> rfl

/-! ## Members that stay -/

/-- Members of a state file that are read as they were written. -/
structure Lasting (members : List (String × Value)) : Prop where
  state : StateMembers members
  same : ∀ member ∈ members, member.2.reread.canonical = member.2

/-- The state file holds no object, or one without doubles. -/
def Stable (store : CounterStore) (tree : FileTree) : Prop :=
  ∀ members, store.readState? tree = some members → ∀ member ∈ members, member.2.WithoutDoubles

variable {store : CounterStore} {tree : FileTree} {members : List (String × Value)}

theorem Lasting.setMember (lasting : Lasting members) (number : UInt32) :
    Lasting (Json.setMember counterKey (.number (.integer number.toNat)) members) := by
  refine ⟨lasting.state.setMember counterKey (.number (Json.Number.fits_toNat number)), ?_⟩
  intro member mem
  rcases Json.mem_of_mem_setMember mem with rfl | old
  · exact reread_number number
  · exact lasting.same member old

/-- Members without doubles last, once they have been read. -/
theorem lasting_of_readState? (read : store.readState? tree = some members)
    (without : ∀ member ∈ members, member.2.WithoutDoubles) : Lasting members := by
  have state := stateMembers_readState? read
  refine ⟨state, ?_⟩
  intro member mem
  rw [(state.fits member mem).reread_eq (without member mem)]
  exact canonical_of_mem_readState? read member mem

theorem Stable.lasting (stable : store.Stable tree) :
    Lasting ((store.readState? tree).getD []) := by
  cases read : store.readState? tree with
  | none => exact ⟨stateMembers_nil, List.forall_mem_nil _⟩
  | some members => exact lasting_of_readState? read (stable members read)

/-! ## One change -/

/-- The text of a state file is read as it was written. -/
theorem Lasting.readState?_stateText (lasting : Lasting members) {number : UInt32}
    (stored : store.stored? tree = some (stateText members number).toUTF8) :
    store.readState? tree =
      some (Json.setMember counterKey (.number (.integer number.toNat)) members) := by
  have same : ∀ member ∈ Json.setMember counterKey (.number (.integer number.toNat)) members,
      (member.1, member.2.reread.canonical) = member := by
    intro member mem
    rw [(lasting.setMember number).same member mem]
  rw [CounterStore.readState?_stateText lasting.state stored, List.map_congr_left same,
    List.map_id']

/-- What is read from a state file that was written: the members that were read before, with the
number among them. -/
theorem Stable.readState?_save (stable : store.Stable tree) (writable : store.Writable tree)
    (number : UInt32) :
    store.readState? (store.save number tree) = some (Json.setMember counterKey
      (.number (.integer number.toNat)) ((store.readState? tree).getD [])) :=
  stable.lasting.readState?_stateText (stored?_save writable number)

/-- What is loaded after a number was stored: the number, or one instead of zero. -/
theorem load_save_eq (writable : store.Writable tree) (number : UInt32) :
    store.load (store.save number tree) = if number = 0 then 1 else number := by
  split
  · rename_i zero
    subst zero
    rw [load, lookup_counterKey_save writable]
    rfl
  · rename_i nonzero
    refine load_save writable (Nat.one_le_iff_ne_zero.mpr fun zero => nonzero ?_)
    exact UInt32.toNat_inj.mp zero

/-! ## Many changes -/

/-- **Only the last change counts.** -/
theorem stored?_applyAll (writable : store.Writable tree)
    (lasting : Lasting ((store.readState? tree).getD [])) (updates : List Update) (last : Update) :
    store.stored? (store.applyAll tree (updates ++ [last])) =
      store.stored? (store.save last.number tree) := by
  induction updates generalizing tree with
  | nil => rw [applyAll, List.nil_append, List.foldl_cons, List.foldl_nil, apply_eq_save]
  | cons first rest ih =>
      have read := lasting.readState?_stateText (stored?_save writable first.number)
      have still : Lasting ((store.readState? (store.save first.number tree)).getD []) := by
        rw [read]
        exact lasting.setMember first.number
      calc store.stored? (store.applyAll tree (first :: rest ++ [last]))
          = store.stored? (store.applyAll (store.save first.number tree) (rest ++ [last])) := by
            rw [applyAll, List.cons_append, List.foldl_cons, apply_eq_save, applyAll]
        _ = store.stored? (store.save last.number (store.save first.number tree)) :=
            ih (writable.save first.number) still
        _ = store.stored? (store.save last.number tree) := by
            -- The member that the first change has put there is replaced by the last one.
            rw [stored?_save (writable.save first.number), stored?_save writable, read,
              Option.getD_some, stateText, stateText, Json.setMember_setMember]

/-! ## What storing a number does -/

/-- **Storing a number changes the number and nothing else.**  What is read from the state file then
holds the number, and the number is loaded, or one instead of zero.  The other members are those
that were read before, if these were without doubles; where no object could be read, the number is
the only member.  No other file comes, goes or changes.  Unless there are doubles, the state file
forgets all changes but the last one. -/
theorem save_updates_state (store : CounterStore) (tree : FileTree) (writable : store.Writable tree)
    (number : UInt32) :
    let after := store.save number tree
    (∃ members, store.readState? after = some members ∧
      members.lookup counterKey = some (.number (.integer number.toNat)) ∧
      (store.Stable tree → ∀ name, name ≠ counterKey →
        members.lookup name = (store.readState? tree).bind (·.lookup name)) ∧
      (store.readState? tree = none →
        members = [(counterKey, .number (.integer number.toNat))])) ∧
    store.load after = (if number = 0 then 1 else number) ∧
    (∀ location, ¬after.FilePlace store.path location → ∀ content,
      after.node? location = some (.file content) ↔ tree.node? location = some (.file content)) ∧
    (store.Stable tree → ∀ updates last, last.number = number →
      store.stored? (store.applyAll tree (updates ++ [last])) = store.stored? after) := by
  intro after
  have found : (store.readState? after).bind (·.lookup counterKey) = _ :=
    lookup_counterKey_save writable number
  obtain ⟨members, read⟩ : ∃ members, store.readState? after = some members :=
    ⟨_, readState?_save writable number⟩
  have placed (stable : store.Stable tree) : members = Json.setMember counterKey
      (.number (.integer number.toNat)) ((store.readState? tree).getD []) :=
    Option.some.inj (read.symm.trans (stable.readState?_save writable number))
  refine ⟨⟨members, read, ?_, ?_, ?_⟩, load_save_eq writable number, ?_, ?_⟩
  · rw [read, Option.bind_some] at found
    exact found
  · intro stable name different
    rw [placed stable, Json.lookup_setMember_of_ne different]
    cases store.readState? tree with
    | none => rfl
    | some members => rfl
  · intro unreadable
    have stable : store.Stable tree :=
      fun members read => absurd (unreadable.symm.trans read) nofun
    rw [placed stable, unreadable]
    rfl
  · intro location apart content
    exact file_save_iff apart content
  · intro stable updates last same
    subst same
    exact stored?_applyAll writable stable.lasting updates last

/-- A state file that holds a seven and a member of another kind. -/
theorem save_updates_state_theme :
    let store : CounterStore := ⟨"state.json"⟩
    let old : List (String × Value) := [("theme", .string "dark")]
    let tree := (FileTree.empty ["home"]).put ["home", "state.json"]
      (.file (stateText old 7).toUTF8)
    store.Writable tree ∧ store.load (store.save 8 tree) = 8 ∧
      ∃ members, store.readState? (store.save 8 tree) = some members ∧
        members.lookup "theme" = some (.string "dark") := by
  intro store old tree
  have writable : store.Writable tree :=
    writable_of_write ByteArray.empty (by decide +kernel) (by decide +kernel)
  have lasting : Lasting old := by
    refine ⟨⟨List.pairwise_singleton _ _, ?_⟩, ?_⟩
    · intro member mem
      rw [List.mem_singleton.mp mem]
      exact .string "dark"
    · intro member mem
      rw [List.mem_singleton.mp mem]
      rfl
  have here : tree.node? ["home", "state.json"] = some (.file (stateText old 7).toUTF8) := by
    rw [FileTree.node?_put _ (by decide), if_pos rfl]
  have place : tree.FilePlace "state.json" ["home", "state.json"] := by
    refine ⟨⟨["home"], "state.json", by decide +kernel, by decide, rfl⟩, ?_⟩
    rw [here]
    exact nofun
  have stored : store.stored? tree = some (stateText old 7).toUTF8 := by
    rw [stored?, FileTree.read_eq_ok_iff.mpr ⟨_, place, here⟩]
    rfl
  have read := lasting.readState?_stateText stored
  have stable : store.Stable tree := by
    intro members read'
    obtain rfl := Option.some.inj (read.symm.trans read')
    intro member mem
    rcases Json.mem_of_mem_setMember mem with rfl | other
    · exact .integer 7
    · rw [List.mem_singleton.mp other]
      exact .string "dark"
  obtain ⟨⟨members, saved, -, others, -⟩, loaded, -⟩ :=
    save_updates_state store tree writable 8
  refine ⟨writable, loaded, members, saved, ?_⟩
  rw [others stable "theme" (by decide), read]
  rfl

end CounterStore

end PatternRefinement
