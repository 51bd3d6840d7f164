import PatternRefinement.Proofs.Json.ReadBack

/-!
# Members in order

A reader of maps keeps members in order of their names, one for each name.

## Main Definitions

* `Sorted` — members in strictly ascending order of their names
* `Last` — a member is the last one of its name

## Main Statements

* `lookup_setMember_self`, `lookup_setMember_of_ne` — what a member put among others changes
* `Sorted.setMember` — it is put in its place
* `sorted_of_canonical` — the members that a reader of maps sees are sorted
* `setMembers_of_sorted` — and members that are sorted are what it sees
* `lookup_setMembers_iff` — of the members with one name it sees the last
* `Value.Fits.canonical` — what it sees fits if the value as it was written does
* `Value.Fits.canonical_canonical` — and it sees that as it is
-/

namespace PatternRefinement.Json

/-- Members in strictly ascending order of their names. -/
def Sorted (members : List (String × Value)) : Prop :=
  members.Pairwise fun a b => a.1 < b.1

/-! ## One member -/

theorem mem_of_mem_setMember {name : String} {value : Value} {members : List (String × Value)}
    {member : String × Value} (mem : member ∈ setMember name value members) :
    member = (name, value) ∨ member ∈ members := by
  induction members with
  | nil => exact Or.inl (List.mem_singleton.mp mem)
  | cons first rest ih =>
      obtain ⟨other, old⟩ := first
      rw [setMember] at mem
      split at mem
      · rcases List.mem_cons.mp mem with here | behind
        · exact Or.inl here
        · exact Or.inr (List.mem_cons_of_mem _ behind)
      · split at mem
        · exact List.mem_cons.mp mem
        · rcases List.mem_cons.mp mem with rfl | behind
          · exact Or.inr List.mem_cons_self
          · exact (ih behind).imp_right (List.mem_cons_of_mem _)

/-- A member goes behind those with smaller names and before those with greater ones. -/
theorem Sorted.setMember {members : List (String × Value)} (sorted : Sorted members)
    (name : String) (value : Value) : Sorted (setMember name value members) := by
  induction members with
  | nil => exact List.pairwise_singleton _ _
  | cons first rest ih =>
      obtain ⟨other, old⟩ := first
      obtain ⟨below, sortedRest⟩ := List.pairwise_cons.mp sorted
      rw [Json.setMember]
      split
      · rename_i same
        subst same
        exact List.pairwise_cons.mpr ⟨below, sortedRest⟩
      · rename_i different
        split
        · rename_i less
          refine List.pairwise_cons.mpr ⟨fun member mem => ?_, sorted⟩
          rcases List.mem_cons.mp mem with rfl | behind
          · exact less
          · exact String.lt_trans less (below member behind)
        · rename_i notLess
          refine List.pairwise_cons.mpr ⟨fun member mem => ?_, ih sortedRest⟩
          rcases mem_of_mem_setMember mem with rfl | behind
          · exact Std.lt_of_le_of_ne (String.not_lt.mp notLess) (Ne.symm different)
          · exact below member behind

theorem lookup_setMember_self (name : String) (value : Value) (members : List (String × Value)) :
    (setMember name value members).lookup name = some value := by
  induction members with
  | nil => exact List.lookup_cons_self
  | cons first rest ih =>
      obtain ⟨other, old⟩ := first
      rw [setMember]
      split
      · exact List.lookup_cons_self
      · rename_i different
        split
        · exact List.lookup_cons_self
        · rw [List.lookup_cons, beq_false_of_ne different]
          exact ih

theorem lookup_setMember_of_ne {name key : String} (different : key ≠ name) (value : Value)
    (members : List (String × Value)) :
    (setMember name value members).lookup key = members.lookup key := by
  induction members with
  | nil => rw [setMember, List.lookup_cons, beq_false_of_ne different]
  | cons first rest ih =>
      obtain ⟨other, old⟩ := first
      rw [setMember]
      split
      · rename_i same
        subst same
        rw [List.lookup_cons, List.lookup_cons, beq_false_of_ne different]
      · split
        · rw [List.lookup_cons, beq_false_of_ne different]
        · rw [List.lookup_cons, List.lookup_cons, ih]

/-- A member that is put among others twice is there as it was put the second time. -/
theorem setMember_setMember (name : String) (first second : Value)
    (members : List (String × Value)) :
    setMember name second (setMember name first members) = setMember name second members := by
  induction members with
  | nil => simp [setMember]
  | cons member rest ih =>
      obtain ⟨other, old⟩ := member
      by_cases same : name = other
      · simp [setMember, same]
      by_cases less : name < other
      · simp [setMember, same, less]
      · simp [setMember, same, less, ih]

/-- A member with a name that is greater than all others goes behind them. -/
theorem setMember_of_greater {members : List (String × Value)} {name : String}
    (greater : ∀ member ∈ members, member.1 < name) (value : Value) :
    setMember name value members = members ++ [(name, value)] := by
  induction members with
  | nil => rfl
  | cons first rest ih =>
      obtain ⟨other, old⟩ := first
      have less : other < name := greater _ List.mem_cons_self
      have different : name ≠ other := fun same => String.lt_irrefl other (same ▸ less)
      rw [setMember, if_neg different, if_neg (String.lt_asymm less),
        ih fun member mem => greater member (List.mem_cons_of_mem _ mem)]
      rfl

/-! ## Many members -/

theorem Sorted.setMembers {sorted : List (String × Value)} (h : Sorted sorted)
    (members : List (String × Value)) : Sorted (setMembers members sorted) := by
  induction members generalizing sorted with
  | nil => exact h
  | cons member rest ih => exact ih (h.setMember member.1 member.2)

theorem mem_of_mem_setMembers {members sorted : List (String × Value)} {member : String × Value}
    (mem : member ∈ setMembers members sorted) : member ∈ members ∨ member ∈ sorted := by
  induction members generalizing sorted with
  | nil => exact Or.inr mem
  | cons first rest ih =>
      rcases ih mem with behind | inner
      · exact Or.inl (List.mem_cons_of_mem _ behind)
      · rcases mem_of_mem_setMember inner with rfl | old
        · exact Or.inl List.mem_cons_self
        · exact Or.inr old

theorem setMembers_append {members sorted : List (String × Value)}
    (h : Sorted (sorted ++ members)) : setMembers members sorted = sorted ++ members := by
  induction members generalizing sorted with
  | nil => exact (List.append_nil sorted).symm
  | cons member rest ih =>
      have greater : ∀ other ∈ sorted, other.1 < member.1 := fun other mem =>
        (List.pairwise_append.mp h).2.2 other mem member List.mem_cons_self
      have placed := setMember_of_greater greater member.2
      have split : sorted ++ member :: rest = sorted ++ [member] ++ rest := by
        rw [List.append_assoc, List.singleton_append]
      rw [split] at h ⊢
      exact (congrArg (Json.setMembers rest) placed).trans (ih h)

/-- Sorted members are what a reader of maps sees. -/
theorem setMembers_of_sorted {members : List (String × Value)} (h : Sorted members) :
    setMembers members [] = members :=
  setMembers_append h

/-! ## Members with one name -/

/-- A member has a name and a value, and no member behind it has that name. -/
def Last {α : Type} (members : List (String × α)) (name : String) (value : α) : Prop :=
  ∃ before behind, members = before ++ (name, value) :: behind ∧
    ∀ other ∈ behind, other.1 ≠ name

theorem Last.mem {α : Type} {members : List (String × α)} {name : String} {value : α}
    (last : Last members name value) : (name, value) ∈ members := by
  obtain ⟨before, behind, rfl, -⟩ := last
  exact List.mem_append_right _ List.mem_cons_self

theorem not_last_nil {α : Type} (name : String) (value : α) : ¬Last [] name value :=
  fun last => List.not_mem_nil last.mem

/-- One more member is the last one of its name. -/
theorem last_concat_self {α : Type} (members : List (String × α)) (name : String) (first : α)
    {value : α} : Last (members ++ [(name, first)]) name value ↔ first = value := by
  constructor
  · rintro ⟨before, behind, split, none⟩
    rcases List.eq_nil_or_concat' behind with rfl | ⟨front, final, rfl⟩
    · exact congrArg Prod.snd (List.singleton_inj.mp (List.append_inj_right' split rfl))
    · rw [← List.cons_append, ← List.append_assoc] at split
      obtain rfl := List.singleton_inj.mp (List.append_inj_right' split rfl)
      exact absurd rfl (none _ List.mem_concat_self)
  · rintro rfl
    exact ⟨members, [], rfl, List.forall_mem_nil _⟩

/-- One more member leaves the last ones of the other names. -/
theorem last_concat_of_ne {α : Type} {members : List (String × α)} {member : String × α}
    {name : String} (different : member.1 ≠ name) {value : α} :
    Last (members ++ [member]) name value ↔ Last members name value := by
  constructor
  · rintro ⟨before, behind, split, none⟩
    rcases List.eq_nil_or_concat' behind with rfl | ⟨front, final, rfl⟩
    · obtain rfl := List.singleton_inj.mp (List.append_inj_right' split rfl)
      exact absurd rfl different
    · rw [← List.cons_append, ← List.append_assoc] at split
      exact ⟨before, front, List.append_inj_left' split rfl,
        fun other mem => none other (List.mem_append_left _ mem)⟩
  · rintro ⟨before, behind, rfl, none⟩
    refine ⟨before, behind ++ [member], by rw [List.append_assoc, List.cons_append], ?_⟩
    exact fun other mem => (List.mem_append.mp mem).elim (none other)
      fun final => List.mem_singleton.mp final ▸ different

theorem Last.unique {α : Type} {members : List (String × α)} {name : String} {value other : α}
    (last : Last members name value) (again : Last members name other) : value = other := by
  induction members using List.reverseRecOn with
  | nil => exact absurd last (not_last_nil name value)
  | append_singleton members member ih =>
      by_cases same : member.1 = name
      · obtain ⟨given, found⟩ := member
        subst same
        exact ((last_concat_self members given found).mp last).symm.trans
          ((last_concat_self members given found).mp again)
      · exact ih ((last_concat_of_ne same).mp last) ((last_concat_of_ne same).mp again)

theorem last_map_iff {α β : Type} {members : List (String × α)} {name : String} (f : α → β)
    {value : β} : Last (members.map fun member => (member.1, f member.2)) name value ↔
      ∃ found, Last members name found ∧ f found = value := by
  induction members using List.reverseRecOn with
  | nil => simp [not_last_nil]
  | append_singleton members member ih =>
      rw [List.map_append, List.map_singleton]
      by_cases same : member.1 = name
      · obtain ⟨given, first⟩ := member
        subst same
        simp [last_concat_self]
      · have sameName : (member.1, f member.2).1 ≠ name := same
        simp only [last_concat_of_ne same, last_concat_of_ne sameName, ih]

/-- A reader of maps sees the last one of the members with a name. -/
theorem lookup_setMembers_iff {members : List (String × Value)} {name : String} {value : Value} :
    (setMembers members []).lookup name = some value ↔ Last members name value := by
  induction members using List.reverseRecOn with
  | nil => exact iff_of_false nofun (not_last_nil name value)
  | append_singleton members member ih =>
      have step : setMembers (members ++ [member]) [] =
          setMember member.1 member.2 (setMembers members []) := List.foldl_concat ..
      rw [step]
      by_cases same : member.1 = name
      · obtain ⟨given, found⟩ := member
        subst same
        rw [lookup_setMember_self, last_concat_self, Option.some_inj]
      · rw [lookup_setMember_of_ne (Ne.symm same), last_concat_of_ne same, ih]

/-! ## The value that a reader of maps sees -/

theorem canonicalItems_eq (items : List Value) :
    canonicalItems items = items.map Value.canonical := by
  induction items with
  | nil => rfl
  | cons item rest ih => rw [canonicalItems, ih, List.map_cons]

theorem canonicalMembers_eq (members : List (String × Value)) :
    canonicalMembers members = members.map fun member => (member.1, member.2.canonical) := by
  induction members with
  | nil => rfl
  | cons member rest ih => rw [canonicalMembers, ih, List.map_cons]

theorem Sorted.map {members : List (String × Value)} (h : Sorted members) (f : Value → Value) :
    Sorted (members.map fun member => (member.1, f member.2)) :=
  List.pairwise_map.mpr h

theorem lookup_map (members : List (String × Value)) (f : Value → Value) (name : String) :
    (members.map fun member => (member.1, f member.2)).lookup name =
      (members.lookup name).map f := by
  induction members with
  | nil => rfl
  | cons member rest ih =>
      rw [List.map_cons, List.lookup_cons, List.lookup_cons, ih]
      split <;> rfl

/-- A reader of maps sees an object where one was written. -/
theorem canonical_eq_object_iff {value : Value} {members : List (String × Value)} :
    value.canonical = .object members ↔
      ∃ written, value = .object written ∧ setMembers (canonicalMembers written) [] = members := by
  cases value <;> simp [Value.canonical]

theorem sorted_of_canonical {value : Value} {members : List (String × Value)}
    (h : value.canonical = .object members) : Sorted members := by
  obtain ⟨written, -, rfl⟩ := canonical_eq_object_iff.mp h
  exact Sorted.setMembers List.Pairwise.nil _

/-- What a reader of maps sees fits if the value as it was written does. -/
theorem Value.Fits.canonical {value : Value} {depth : Nat} (fits : value.Fits depth) :
    value.canonical.Fits depth := by
  induction fits with
  | null => exact .null
  | bool b => exact .bool b
  | number fits => exact .number fits
  | string text => exact .string text
  | array each ih =>
      rw [Value.canonical, canonicalItems_eq]
      refine .array fun item mem => ?_
      obtain ⟨written, inside, rfl⟩ := List.mem_map.mp mem
      exact ih written inside
  | object each ih =>
      rw [Value.canonical, canonicalMembers_eq]
      refine .object fun member mem => ?_
      rcases mem_of_mem_setMembers mem with placed | none
      · obtain ⟨written, inside, rfl⟩ := List.mem_map.mp placed
        exact ih written inside
      · exact absurd none List.not_mem_nil

/-- A reader of maps sees the same when it reads what it sees. -/
theorem Value.Fits.canonical_canonical {value : Value} {depth : Nat} (fits : value.Fits depth) :
    value.canonical.canonical = value.canonical := by
  induction fits with
  | null => rfl
  | bool b => rfl
  | number fits => rfl
  | string text => rfl
  | @array depth items each ih =>
      have same : ∀ item ∈ items, (Value.canonical ∘ Value.canonical) item = item.canonical := ih
      rw [Value.canonical, Value.canonical, canonicalItems_eq, canonicalItems_eq, List.map_map,
        List.map_congr_left same]
  | @object depth members each ih =>
      have sorted : Sorted (setMembers (canonicalMembers members) []) :=
        Sorted.setMembers List.Pairwise.nil _
      have same : ∀ member ∈ setMembers (canonicalMembers members) [],
          (member.1, member.2.canonical) = member := by
        intro member mem
        rcases mem_of_mem_setMembers mem with placed | none
        · rw [canonicalMembers_eq] at placed
          obtain ⟨written, inside, rfl⟩ := List.mem_map.mp placed
          exact congrArg (Prod.mk written.1) (ih written inside)
        · exact absurd none List.not_mem_nil
      rw [Value.canonical, Value.canonical, canonicalMembers_eq (setMembers _ _),
        List.map_congr_left same, List.map_id', setMembers_of_sorted sorted]

/-- Each member that a reader of maps sees has a value that it sees as it is. -/
theorem Value.Fits.canonical_of_mem {value : Value} {depth : Nat} (fits : value.Fits depth)
    {members : List (String × Value)} (h : value.canonical = .object members) :
    ∀ member ∈ members, member.2.canonical = member.2 := by
  have again := fits.canonical_canonical
  rw [h, Value.canonical, canonicalMembers_eq,
    setMembers_of_sorted ((sorted_of_canonical h).map Value.canonical)] at again
  have same : members.map (fun member => (member.1, member.2.canonical)) = members.map id :=
    (Value.object.inj again).trans (List.map_id members).symm
  intro member mem
  exact congrArg Prod.snd (List.map_inj_left.mp same member mem)

end PatternRefinement.Json
