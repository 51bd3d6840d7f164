import PatternRefinement.Catalog

/-!
# Selections stay in order

A selection lists its names in ascending order by code point, each once.  This module shows that
every change of a selection keeps that, and says which names each change leaves selected.

## Main Definitions

* `Selection.Ascending` — the names ascend strictly, so none is repeated
* `Selection.Offered` — every selected name belongs to a catalog
-/

namespace PatternRefinement

/-! ## Putting a name in its place -/

theorem mem_insertName {names : List PatternName} {name other : PatternName} :
    other ∈ insertName name names ↔ other = name ∨ other ∈ names := by
  induction names with
  | nil => simp [insertName]
  | cons first rest ih =>
      rw [insertName]
      split
      · exact List.mem_cons
      · split
        · rename_i same
          subst same
          rw [List.mem_cons]
          exact ⟨Or.inr, fun h => h.elim Or.inl id⟩
        · rw [List.mem_cons, ih, List.mem_cons, or_left_comm]

/-- A name goes behind the smaller ones and before the greater ones. -/
theorem pairwise_insertName {names : List PatternName} (name : PatternName)
    (ascending : names.Pairwise (· < ·)) : (insertName name names).Pairwise (· < ·) := by
  induction names with
  | nil => exact List.pairwise_singleton _ _
  | cons first rest ih =>
      obtain ⟨below, sorted⟩ := List.pairwise_cons.mp ascending
      rw [insertName]
      split
      · rename_i less
        refine List.pairwise_cons.mpr ⟨fun other mem => ?_, ascending⟩
        rcases List.mem_cons.mp mem with rfl | mem
        · exact less
        · exact String.lt_trans less (below other mem)
      · rename_i notLess
        split
        · exact ascending
        · rename_i different
          refine List.pairwise_cons.mpr ⟨fun other mem => ?_, ih sorted⟩
          rcases mem_insertName.mp mem with rfl | mem
          · exact Std.lt_of_le_of_ne (String.not_lt.mp notLess) (Ne.symm different)
          · exact below other mem

namespace Selection

/-- The names of the selection ascend strictly by code point. -/
def Ascending (selection : Selection) : Prop :=
  selection.names.Pairwise (· < ·)

/-- Every name of the selection belongs to the catalog. -/
def Offered (catalog : Catalog) (selection : Selection) : Prop :=
  ∀ name ∈ selection.names, name ∈ catalog.names

/-- Names that ascend strictly are not repeated. -/
theorem Ascending.nodup {selection : Selection} (h : selection.Ascending) :
    selection.names.Nodup :=
  List.Pairwise.imp (fun less => Std.ne_of_lt less) h

theorem ascending_empty : Selection.empty.Ascending := List.Pairwise.nil

theorem offered_empty (catalog : Catalog) : Selection.empty.Offered catalog :=
  fun _ mem => absurd mem List.not_mem_nil

/-! ## The changes of a selection -/

theorem mem_insert {selection : Selection} {name other : PatternName} :
    other ∈ (selection.insert name).names ↔ other = name ∨ other ∈ selection.names :=
  mem_insertName

theorem mem_erase {selection : Selection} {name other : PatternName} :
    other ∈ (selection.erase name).names ↔ other ∈ selection.names ∧ other ≠ name := by
  simp [erase]

theorem mem_keep {catalog : Catalog} {selection : Selection} {name : PatternName} :
    name ∈ (selection.keep catalog).names ↔ name ∈ selection.names ∧ name ∈ catalog.names := by
  simp [keep, Catalog.contains]

theorem Ascending.insert {selection : Selection} (h : selection.Ascending) (name : PatternName) :
    (selection.insert name).Ascending :=
  pairwise_insertName name h

theorem Ascending.erase {selection : Selection} (h : selection.Ascending) (name : PatternName) :
    (selection.erase name).Ascending :=
  List.Pairwise.filter _ h

theorem Ascending.keep {selection : Selection} (h : selection.Ascending) (catalog : Catalog) :
    (selection.keep catalog).Ascending :=
  List.Pairwise.filter _ h

/-- What a catalog leaves of a selection is offered by it, whatever the selection was. -/
theorem offered_keep (catalog : Catalog) (selection : Selection) :
    (selection.keep catalog).Offered catalog :=
  fun _ mem => (mem_keep.mp mem).2

/-- An accepted toggle gives a selected name up, or selects one that the catalog offers. -/
theorem toggle_eq_ok {catalog : Catalog} {selection next : Selection} {name : PatternName}
    {chosen : Bool} (h : selection.toggle catalog name = .ok (next, chosen)) :
    (name ∈ selection.names ∧ next = selection.erase name ∧ chosen = false) ∨
      (name ∉ selection.names ∧ name ∈ catalog.names ∧ next = selection.insert name ∧
        chosen = true) := by
  unfold toggle at h
  split at h
  · rename_i selected
    cases h
    exact Or.inl ⟨List.contains_iff_mem.mp selected, rfl, rfl⟩
  · rename_i unselected
    split at h
    · rename_i offered
      cases h
      refine Or.inr ⟨fun mem => unselected (List.contains_iff_mem.mpr mem), ?_, rfl, rfl⟩
      exact List.contains_iff_mem.mp offered
    · cases h

/-- A name that is not selected is selected if the catalog offers it. -/
theorem toggle_of_not_mem {catalog : Catalog} {selection : Selection} {name : PatternName}
    (new : name ∉ selection.names) : selection.toggle catalog name =
      if name ∈ catalog.names then .ok (selection.insert name, true)
      else .error (.unknownPattern name) := by
  simp [toggle, contains, Catalog.contains, new]

theorem Ascending.toggle {catalog : Catalog} {selection next : Selection} {name : PatternName}
    {chosen : Bool} (h : selection.Ascending)
    (done : selection.toggle catalog name = .ok (next, chosen)) : next.Ascending := by
  rcases toggle_eq_ok done with ⟨_, rfl, _⟩ | ⟨_, _, rfl, _⟩
  · exact h.erase name
  · exact h.insert name

theorem Offered.toggle {catalog : Catalog} {selection next : Selection} {name : PatternName}
    {chosen : Bool} (h : selection.Offered catalog)
    (done : selection.toggle catalog name = .ok (next, chosen)) : next.Offered catalog := by
  rcases toggle_eq_ok done with ⟨_, rfl, _⟩ | ⟨_, offered, rfl, _⟩
  · exact fun other mem => h other (mem_erase.mp mem).1
  · intro other mem
    rcases mem_insert.mp mem with rfl | mem
    · exact offered
    · exact h other mem

/-- A name that is the only one selected can be given up, and nothing is selected then. -/
theorem toggle_last {catalog : Catalog} {selection : Selection} {name : PatternName}
    (only : selection.names = [name]) :
    selection.toggle catalog name = .ok (.empty, false) := by
  have selected : selection.contains name = true := by simp [contains, only]
  have left : selection.erase name = .empty := by simp [erase, only, Selection.empty]
  rw [toggle, if_pos selected, left]

end Selection

end PatternRefinement
