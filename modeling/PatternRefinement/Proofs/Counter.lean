import PatternRefinement.Counter
import PatternRefinement.Proofs.FileTree.Access
import PatternRefinement.Proofs.Json.Members

/-!
# The stored counter is read again

## Main Definitions

* `CounterStore.stored?` — what stands in the state file, if there is one that can be read
* `CounterStore.Writable` — the state file can be written

## Main Statements

* `CounterStore.load_save` — a number that is saved is loaded again
* `CounterStore.load_congr` — what is loaded depends on what stands in the state file and on
  nothing else
* `toNat_nextRefinement` — counting stops at the greatest number

## Design Notes

The other members of the state file are read and written anew each time.  A double among them may
change then, but it stays readable, and that is why the number behind it is never lost.
-/

namespace PatternRefinement

open Json (Value)

/-! ## Numbers -/

/-- The number that follows is one more, as long as 32 bits hold it. -/
theorem toNat_nextRefinement (n : UInt32) :
    (nextRefinement n).toNat = min (2 ^ 32 - 1) (n.toNat + 1) := by
  have bound := n.toNat_lt
  have size : UInt32.size = 2 ^ 32 := rfl
  rw [nextRefinement]
  split
  · rename_i room
    rw [UInt32.toNat_add, UInt32.toNat_one, Nat.mod_eq_of_lt (size ▸ room)]
    omega
  · omega

/-- A whole number is a number of a refinement if 32 bits hold it and it is not zero. -/
theorem refinementNumber?_eq_some_iff {value : Value} {n : UInt32} :
    refinementNumber? value = some n ↔ wholeNumber? value = some n.toNat ∧ 1 ≤ n.toNat := by
  rw [refinementNumber?, Option.bind_eq_some_iff]
  constructor
  · rintro ⟨m, whole, bounded⟩
    split at bounded
    · rename_i bounds
      obtain rfl := Option.some.inj bounded
      rw [UInt32.toNat_ofNat_of_lt' bounds.2]
      exact ⟨whole, bounds.1⟩
    · cases bounded
  · rintro ⟨whole, positive⟩
    exact ⟨n.toNat, whole, by rw [if_pos ⟨positive, n.toNat_lt⟩, UInt32.ofNat_toNat]⟩

theorem one_le_of_refinementNumber? {value : Value} {n : UInt32}
    (h : refinementNumber? value = some n) : 1 ≤ n.toNat :=
  (refinementNumber?_eq_some_iff.mp h).2

theorem refinementNumber?_integer {n : UInt32} (positive : 1 ≤ n.toNat) :
    refinementNumber? (.number (.integer n.toNat)) = some n := by
  refine refinementNumber?_eq_some_iff.mpr ⟨?_, positive⟩
  rw [wholeNumber?, if_pos (Int.natCast_nonneg _), Int.toNat_natCast]

/-- A number of a refinement is read as it was written. -/
theorem reread_number (n : UInt32) : (Value.number (.integer n.toNat)).reread.canonical =
    .number (.integer n.toNat) := by
  rw [Value.reread, Json.Number.reread_integer (Json.Number.fits_toNat n)]
  rfl

/-! ## Members of a state file -/

/-- Members as a state file is read: in order, and such that they can be written and read again. -/
structure StateMembers (members : List (String × Value)) : Prop where
  sorted : Json.Sorted members
  fits : ∀ member ∈ members, member.2.Fits 126

theorem stateMembers_nil : StateMembers [] := ⟨List.Pairwise.nil, List.forall_mem_nil _⟩

theorem StateMembers.setMember {members : List (String × Value)} (h : StateMembers members)
    (name : String) {value : Value} (fits : value.Fits 126) :
    StateMembers (Json.setMember name value members) := by
  refine ⟨h.sorted.setMember name value, fun member mem => ?_⟩
  rcases Json.mem_of_mem_setMember mem with rfl | old
  · exact fits
  · exact h.fits member old

theorem stateMembers_of_canonical {value : Value} (fits : value.Fits Json.maxDepth)
    {members : List (String × Value)} (h : value.canonical = .object members) :
    StateMembers members := by
  have inner : (Value.object members).Fits Json.maxDepth := h ▸ fits.canonical
  cases inner with
  | object each => exact ⟨Json.sorted_of_canonical h, each⟩

/-- Members that are written are read again, each with the value that is read for it. -/
theorem StateMembers.read?_prettyText {members : List (String × Value)}
    (h : StateMembers members) :
    (Json.read? (Value.object members).prettyText).map Value.canonical =
      some (.object (members.map fun member => (member.1, member.2.reread.canonical))) := by
  have fits : (Value.object members).Fits Json.maxDepth := .object h.fits
  have twice : (members.map fun member => (member.1, member.2.reread)).map
      (fun member => (member.1, member.2.canonical)) =
        members.map fun member => (member.1, member.2.reread.canonical) := by
    rw [List.map_map]
    rfl
  rw [Json.read?_prettyText fits, Option.map_some, Value.reread, Json.rereadMembers_eq,
    Value.canonical, Json.canonicalMembers_eq, twice,
    Json.setMembers_of_sorted (h.sorted.map fun value => value.reread.canonical)]

namespace CounterStore

/-! ## The state file -/

/-- What stands in the state file, if there is one that can be read. -/
def stored? (store : CounterStore) (tree : FileTree) : Option ByteArray :=
  (tree.read store.path).toOption

theorem stored?_eq_some_iff {store : CounterStore} {tree : FileTree} {content : ByteArray} :
    store.stored? tree = some content ↔ tree.read store.path = .ok content := by
  unfold stored?
  cases tree.read store.path <;> simp [Except.toOption]

theorem readText?_eq (store : CounterStore) (tree : FileTree) :
    tree.readText? store.path = (store.stored? tree).bind String.fromUTF8? := by
  unfold FileTree.readText? stored?
  cases tree.read store.path <;> rfl

theorem readState?_congr {store : CounterStore} {a b : FileTree}
    (same : store.stored? a = store.stored? b) : store.readState? a = store.readState? b := by
  rw [readState?, readState?, readText?_eq, readText?_eq, same]

/-- What is loaded depends on what stands in the state file and on nothing else. -/
theorem load_congr {store : CounterStore} {a b : FileTree}
    (same : store.stored? a = store.stored? b) : store.load a = store.load b := by
  rw [load, load, readState?_congr same]

/-- What is read from a state file is an object as a reader of maps sees it. -/
theorem of_readState?_eq_some {store : CounterStore} {tree : FileTree}
    {members : List (String × Value)} (h : store.readState? tree = some members) :
    ∃ value : Value, value.Fits Json.maxDepth ∧ value.canonical = .object members := by
  unfold readState? at h
  split at h
  · rename_i object
    obtain rfl := Option.some.inj h
    obtain ⟨value, read, canonical⟩ := Option.map_eq_some_iff.mp object
    obtain ⟨text, -, readText⟩ := Option.bind_eq_some_iff.mp read
    exact ⟨value, Json.fits_of_read? readText, canonical⟩
  · cases h

theorem stateMembers_readState? {store : CounterStore} {tree : FileTree}
    {members : List (String × Value)} (h : store.readState? tree = some members) :
    StateMembers members := by
  obtain ⟨value, fits, canonical⟩ := of_readState?_eq_some h
  exact stateMembers_of_canonical fits canonical

theorem canonical_of_mem_readState? {store : CounterStore} {tree : FileTree}
    {members : List (String × Value)} (h : store.readState? tree = some members) :
    ∀ member ∈ members, member.2.canonical = member.2 := by
  obtain ⟨value, fits, canonical⟩ := of_readState?_eq_some h
  exact fits.canonical_of_mem canonical

/-- The number that is loaded is a number of a refinement. -/
theorem one_le_load (store : CounterStore) (tree : FileTree) : 1 ≤ (store.load tree).toNat := by
  rw [load]
  cases found : ((store.readState? tree).bind (·.lookup counterKey)).bind refinementNumber? with
  | none => exact Nat.le_refl 1
  | some n =>
      obtain ⟨value, -, number⟩ := Option.bind_eq_some_iff.mp found
      exact one_le_of_refinementNumber? number

/-! ## Saving and loading -/

/-- The state file can be written: the directories above it are there or can be created, and
nothing but a file stands in its place. -/
structure Writable (store : CounterStore) (tree : FileTree) : Prop where
  parent : (store.makeParent tree).2 = .ok ()
  file : ∀ content, ∃ written, (store.makeParent tree).1.write store.path content = .ok written

/-- If one content can be written, every other can. -/
theorem writable_of_write {store : CounterStore} {tree : FileTree} (content : ByteArray)
    (parent : (store.makeParent tree).2 = .ok ())
    (written : ((store.makeParent tree).1.write store.path content).isOk = true) :
    store.Writable tree := by
  refine ⟨parent, fun other => ?_⟩
  cases done : (store.makeParent tree).1.write store.path content with
  | error e =>
      rw [done] at written
      cases written
  | ok tree =>
      obtain ⟨location, place, -⟩ := FileTree.write_eq_ok_iff.mp done
      exact ⟨_, FileTree.write_eq_ok_iff.mpr ⟨location, place, rfl⟩⟩

/-- What stands in a state file that was written. -/
theorem stored?_save {store : CounterStore} {tree : FileTree} (writable : store.Writable tree)
    (number : UInt32) : store.stored? (store.save number tree) =
      some (stateText ((store.readState? tree).getD []) number).toUTF8 := by
  obtain ⟨parent, file⟩ := writable
  obtain ⟨written, done⟩ := file (stateText ((store.readState? tree).getD []) number).toUTF8
  have saved : store.save number tree = written := by
    unfold save
    cases made : store.makeParent tree with
    | mk prepared outcome =>
        rw [made] at parent done
        obtain rfl : outcome = .ok () := parent
        dsimp only at done ⊢
        rw [done]
  rw [saved, stored?, FileTree.read_write done]
  rfl

theorem stateMembers_getD_readState? (store : CounterStore) (tree : FileTree) :
    StateMembers ((store.readState? tree).getD []) := by
  cases read : store.readState? tree with
  | none => exact stateMembers_nil
  | some members => exact stateMembers_readState? read

/-- The text of a state file is read, with what is read for each of its members. -/
theorem readState?_stateText {store : CounterStore} {tree : FileTree}
    {old : List (String × Value)} {number : UInt32} (state : StateMembers old)
    (stored : store.stored? tree = some (stateText old number).toUTF8) :
    store.readState? tree = some ((Json.setMember counterKey (.number (.integer number.toNat))
      old).map fun member => (member.1, member.2.reread.canonical)) := by
  have members := state.setMember counterKey (.number (Json.Number.fits_toNat number))
  rw [readState?, readText?_eq, stored, Option.bind_some, Json.fromUTF8?_toUTF8,
    Option.bind_some, stateText, members.read?_prettyText]

theorem readState?_save {store : CounterStore} {tree : FileTree} (writable : store.Writable tree)
    (number : UInt32) : store.readState? (store.save number tree) =
      some ((Json.setMember counterKey (.number (.integer number.toNat))
        ((store.readState? tree).getD [])).map
          fun member => (member.1, member.2.reread.canonical)) :=
  readState?_stateText (store.stateMembers_getD_readState? tree) (stored?_save writable number)

/-- The member with the number is read as it was written. -/
theorem lookup_counterKey_save {store : CounterStore} {tree : FileTree}
    (writable : store.Writable tree) (number : UInt32) :
    (store.readState? (store.save number tree)).bind (·.lookup counterKey) =
      some (.number (.integer number.toNat)) := by
  rw [readState?_save writable, Option.bind_some,
    Json.lookup_map _ fun value => value.reread.canonical, Json.lookup_setMember_self,
    Option.map_some, reread_number]

/-- **A number that is saved is loaded again**, whatever stood in the state file before. -/
theorem load_save {store : CounterStore} {tree : FileTree} (writable : store.Writable tree)
    {number : UInt32} (positive : 1 ≤ number.toNat) :
    store.load (store.save number tree) = number := by
  rw [load, lookup_counterKey_save writable, Option.bind_some,
    refinementNumber?_integer positive, Option.getD_some]

end CounterStore

end PatternRefinement
