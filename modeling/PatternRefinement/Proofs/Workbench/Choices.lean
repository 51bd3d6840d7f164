import Mathlib.Data.List.Nodup
import PatternRefinement.Program
import PatternRefinement.Proofs.Names
import PatternRefinement.Proofs.Session.CatalogChange
import PatternRefinement.Proofs.Workbench.Production

/-!
# Choosing patterns one by one

A session is filled by toggling one pattern after the other.  A toggle gives up what was chosen
before, so this works only because no choice is made twice.

## Main Definitions

* `MadeOnce` — what has to be known of the choices that a session admits
* `NumberedSelection.unchosen` — the names that are still to be chosen
* `NumberedSelection.Known` — texts name patterns for one selection, and all of them are known

## Main Statements

* `chooseAll_distinct` — distinct choices are all made, in any session
* `NumberedSelection.chooseAll_choosePattern` — names are toggled once each, and not at all if they
  have been chosen before
* `NumberedSelection.prepared_of_known`, `NumberedSelection.unready_of_unknown` — when a numbered
  selection is prepared and ready

## Design Notes

What has been chosen so far is kept as a list of choices, whatever a session makes of it.  A choice
that is not in the list is accepted or refused, and that it is not in the list is all that has to be
known of the choices before.

The choices for a numbered selection are not distinct, but each one looks at the session before it
is made.  This is what leaves one toggle for each name.
-/

namespace PatternRefinement

/-! ## Changes that are made once each -/

section

variable {S Edit Item : Type} [EditableSession S Edit] {files : FileTree}
  {Holds : S → List Item → Prop} {Admissible : Item → Prop} {change : Item → Edit}

/-- A choice that has not been made is accepted if it is admissible, and refused otherwise. -/
def MadeOnce (files : FileTree) (Holds : S → List Item → Prop) (Admissible : Item → Prop)
    (change : Item → Edit) : Prop :=
  ∀ session chosen item, Holds session chosen → item ∉ chosen →
    (Admissible item → ∃ edited, EditableSession.edit session files (change item) = .ok edited ∧
      Holds edited.session (item :: chosen)) ∧
    (¬Admissible item → ∃ failure,
      EditableSession.edit session files (change item) = .error failure)

/-- A change that is made whatever the session. -/
theorem chooseAll_always (files : FileTree) (session : S) (change : Edit)
    (rest : List (Choice S Edit)) : chooseAll files session (.always change :: rest) =
      match EditableSession.edit session files change with
      | .ok edited => chooseAll files edited.session rest
      | .error failure => .error failure := rfl

/-- **Distinct choices are all made** if all of them are admissible. -/
theorem chooseAll_distinct (once : MadeOnce files Holds Admissible change)
    {items chosen : List Item} {session : S} (distinct : (items ++ chosen).Nodup)
    (holds : Holds session chosen) (all : ∀ item ∈ items, Admissible item) :
    ∃ after, chooseAll files session (items.map fun item => .always (change item)) = .ok after ∧
      Holds after (items.reverse ++ chosen) := by
  induction items generalizing session chosen with
  | nil => exact ⟨session, rfl, holds⟩
  | cons item rest ih =>
      obtain ⟨first, all⟩ := List.forall_mem_cons.mp all
      have new : item ∉ chosen := fun made =>
        (List.nodup_cons.mp distinct).1 (List.mem_append_right rest made)
      obtain ⟨edited, accepted, holds⟩ := (once session chosen item holds new).1 first
      obtain ⟨after, done, holds⟩ := ih (List.nodup_middle.mpr distinct) holds all
      refine ⟨after, ?_, ?_⟩
      · rw [List.map_cons, chooseAll_always, accepted]
        exact done
      · rw [List.reverse_cons, List.append_assoc]
        exact holds

/-- Distinct choices are not all made if one of them is not admissible. -/
theorem chooseAll_distinct_error (once : MadeOnce files Holds Admissible change)
    {items chosen : List Item} {session : S} (distinct : (items ++ chosen).Nodup)
    (holds : Holds session chosen) {bad : Item} (mem : bad ∈ items)
    (inadmissible : ¬Admissible bad) :
    ∃ failure, chooseAll files session (items.map fun item => .always (change item)) =
      .error failure := by
  induction items generalizing session chosen with
  | nil => exact absurd mem List.not_mem_nil
  | cons item rest ih =>
      have new : item ∉ chosen := fun made =>
        (List.nodup_cons.mp distinct).1 (List.mem_append_right rest made)
      rw [List.map_cons, chooseAll_always]
      by_cases first : Admissible item
      · obtain ⟨edited, accepted, holds⟩ := (once session chosen item holds new).1 first
        rw [accepted]
        refine ih (List.nodup_middle.mpr distinct) holds ?_
        rcases List.mem_cons.mp mem with rfl | later
        · exact absurd first inadmissible
        · exact later
      · obtain ⟨failure, refused⟩ := (once session chosen item holds new).2 first
        rw [refused]
        exact ⟨failure, rfl⟩

end

namespace NumberedSelection

/-! ## Numbered selections that hold choices -/

/-- A session that differs from another one in its selection only, which holds exactly some
choices. -/
structure Holding (start session : NumberedSelection) (chosen : List PatternName) : Prop where
  rest_eq : session = { start with selection := session.selection }
  ascending : session.selection.Ascending
  mem_iff : ∀ name, name ∈ session.selection.names ↔ name ∈ chosen

/-- What a toggle does with a name that is not chosen yet. -/
theorem edit_toggle_of_not_mem (files : FileTree) {session : NumberedSelection}
    {name : PatternName} (new : name ∉ session.selection.names) :
    EditableSession.edit session files (NumberedEdit.toggle name) =
      if name ∈ session.catalog.names then
        .ok ⟨{ session with selection := session.selection.insert name }, files, .chosen true, none⟩
      else .error (.unknownPattern name) := by
  show session.edit files (.toggle name) = _
  rw [edit, toggle, Selection.toggle_of_not_mem new]
  by_cases known : name ∈ session.catalog.names <;> simp only [known, if_true, if_false]

/-- A choice for a selection can be made once if the catalog has the name. -/
theorem madeOnce_toggle (files : FileTree) (start : NumberedSelection) :
    MadeOnce files (Holding start) (fun name => name ∈ start.catalog.names)
      NumberedEdit.toggle := by
  intro session chosen name holding new
  have absent : name ∉ session.selection.names := fun mem => new ((holding.mem_iff name).mp mem)
  have catalog_eq : session.catalog = start.catalog := by rw [holding.rest_eq]
  rw [edit_toggle_of_not_mem files absent, catalog_eq]
  constructor
  · intro offered
    refine ⟨_, if_pos offered, ?_, holding.ascending.insert name, fun other => ?_⟩
    · rw [holding.rest_eq]
    · rw [Selection.mem_insert, holding.mem_iff, List.mem_cons]
  · exact fun unknown => ⟨_, if_neg unknown⟩

/-! ## One toggle for each name -/

/-- The names that are still to be chosen: each once, in the order in which they come first. -/
def unchosen (session : NumberedSelection) (names : List PatternName) : List PatternName :=
  names.eraseDups.filter fun name => !session.selection.contains name

/-- What is still to be chosen behind a name. -/
theorem unchosen_cons (session : NumberedSelection) (name : PatternName)
    (rest : List PatternName) : session.unchosen (name :: rest) =
      if name ∈ session.selection.names then session.unchosen rest
      else name :: { session with selection := session.selection.insert name }.unchosen rest := by
  have others : (rest.filter fun other => !(other == name)).eraseDups =
      rest.eraseDups.filter fun other => !(other == name) := eraseDups_filter rest _
  rw [unchosen, List.eraseDups_cons, others, List.filter_cons, List.filter_filter]
  split <;> rename_i before
  · have absent : name ∉ session.selection.names := by
      simpa [Selection.contains] using before
    rw [if_neg absent, unchosen]
    refine congrArg _ (List.filter_congr fun other _ => ?_)
    rw [Bool.eq_iff_iff]
    simp [Selection.contains, Selection.mem_insert, and_comm]
  · have mem : name ∈ session.selection.names := by
      simpa [Selection.contains] using before
    rw [if_pos mem, unchosen]
    refine List.filter_congr fun other _ => ?_
    rw [Bool.eq_iff_iff]
    simp only [Selection.contains, Bool.and_eq_true, Bool.not_eq_true', beq_eq_false_iff_ne,
      List.contains_eq_mem, decide_eq_false_iff_not, and_iff_left_iff_imp]
    rintro unselected rfl
    exact unselected mem

/-- **Names are toggled once each, and not at all if they have been chosen before.** -/
theorem chooseAll_choosePattern (files : FileTree) (session : NumberedSelection)
    (names : List PatternName) : chooseAll files session (names.map choosePattern) =
      chooseAll files session
        ((session.unchosen names).map fun name => .always (NumberedEdit.toggle name)) := by
  induction names generalizing session with
  | nil => rfl
  | cons name rest ih =>
      rw [List.map_cons, chooseAll, choosePattern, unchosen_cons]
      by_cases mem : name ∈ session.selection.names
      · have chosen : session.selection.contains name = true := by
          simpa [Selection.contains] using mem
        rw [if_pos chosen, if_pos mem]
        exact ih session
      · have unselected : ¬session.selection.contains name = true := by
          simpa [Selection.contains] using mem
        rw [if_neg unselected, if_neg mem, List.map_cons, chooseAll_always]
        dsimp only
        rw [edit_toggle_of_not_mem files mem]
        by_cases known : name ∈ session.catalog.names
        · rw [if_pos known]
          exact ih _
        · rw [if_neg known]

/-! ## Texts -/

/-- What texts list together. -/
def AnyLists (patterns : List String) (name : PatternName) : Prop :=
  ∃ pattern ∈ patterns, Lists pattern name

theorem mem_selected_iff {patterns : List String} {name : PatternName} :
    name ∈ (patterns.flatMap splitNames).eraseDups ↔ AnyLists patterns name := by
  simp only [List.mem_eraseDups, List.mem_flatMap, mem_splitNames, AnyLists]

/-- Texts name at least one pattern together, and all of them are known. -/
structure Known (names : List PatternName) (patterns : List String) : Prop where
  named : ∃ name, AnyLists patterns name
  known : ∀ name, AnyLists patterns name → name ∈ names

/-- A session under the catalog of a listing, with some selection. -/
def listedWith (session : NumberedSelection) (names : List PatternName) (selection : Selection) :
    NumberedSelection :=
  { session with catalog := .ofNames names, selection }

variable {session : NumberedSelection} {names : List PatternName} {patterns : List String}

/-- All choices can be made in a session without a selection, or nothing is prepared. -/
theorem prepared_cases (files : FileTree) (blank : session.selection = .empty)
    (names : List PatternName) (patterns : List String) :
    (∃ failure, Workbench.prepared session files names (selectionChoices patterns) =
        .error failure ∧ ¬Known names patterns) ∨
      ∃ selection, Workbench.prepared session files names (selectionChoices patterns) =
          .ok (session.listedWith names selection) ∧
        Chooses selection.names (AnyLists patterns) ∧
        ((session.listedWith names selection).isReady = true ↔ Known names patterns) := by
  have start_eq : (Session.replaceCatalog (.ofNames names) session).1 =
      session.listedWith names .empty := by
    show (replaceCatalog (.ofNames names) session).1 = _
    rw [replaceCatalog, blank]
    rfl
  have holding : Holding (session.listedWith names .empty) (session.listedWith names .empty) [] :=
    ⟨rfl, Selection.ascending_empty, fun _ => Iff.rfl⟩
  have distinct : ((patterns.flatMap splitNames).eraseDups ++ []).Nodup := by
    simpa using nodup_eraseDups (patterns.flatMap splitNames)
  have toggles : (session.listedWith names .empty).unchosen (patterns.flatMap splitNames) =
      (patterns.flatMap splitNames).eraseDups := List.filter_eq_self.mpr fun _ _ => rfl
  have once := madeOnce_toggle files (session.listedWith names .empty)
  have offered (name : PatternName) : name ∈ (session.listedWith names .empty).catalog.names ↔
      name ∈ names := List.mem_eraseDups
  rw [Workbench.prepared, start_eq, selectionChoices, chooseAll_choosePattern, toggles]
  by_cases all : ∀ name ∈ (patterns.flatMap splitNames).eraseDups,
      name ∈ (session.listedWith names .empty).catalog.names
  · obtain ⟨after, done, rest_eq, ascending, mem_iff⟩ :=
      chooseAll_distinct once distinct holding all
    have chooses : Chooses after.selection.names (AnyLists patterns) := by
      refine ⟨ascending, fun name => ?_⟩
      rw [mem_iff, List.append_nil, List.mem_reverse, mem_selected_iff]
    have known : ∀ name, AnyLists patterns name → name ∈ names := fun name listed =>
      (offered name).mp (all name (mem_selected_iff.mpr listed))
    refine Or.inr ⟨after.selection, done.trans (congrArg Except.ok rest_eq), chooses, ?_⟩
    rw [isReady_iff]
    constructor
    · rintro ⟨-, nonempty⟩
      obtain ⟨name, selected⟩ := List.exists_mem_of_ne_nil _ nonempty
      exact ⟨⟨name, (chooses.mem_iff name).mp selected⟩, known⟩
    · rintro ⟨⟨name, listed⟩, -⟩
      exact ⟨List.ne_nil_of_mem ((offered name).mpr (known name listed)),
        List.ne_nil_of_mem ((chooses.mem_iff name).mpr listed)⟩
  · refine Or.inl ?_
    push Not at all
    obtain ⟨bad, mem, unknown⟩ := all
    obtain ⟨failure, refused⟩ := chooseAll_distinct_error once distinct holding mem unknown
    refine ⟨failure, refused, fun fits => unknown ?_⟩
    exact (offered bad).mpr (fits.known bad (mem_selected_iff.mp mem))

/-- **From texts with known names, a selection is prepared that is ready** and holds these names. -/
theorem prepared_of_known (session : NumberedSelection) (files : FileTree)
    (blank : session.selection = .empty)
    (known : Known names patterns) :
    ∃ selection, Workbench.prepared session files names (selectionChoices patterns) =
        .ok (session.listedWith names selection) ∧
      (session.listedWith names selection).isReady = true ∧
      Chooses selection.names (AnyLists patterns) := by
  rcases prepared_cases files blank names patterns with
    ⟨_, -, unknown⟩ | ⟨selection, done, chooses, ready⟩
  · exact absurd known unknown
  · exact ⟨selection, done, ready.mpr known, chooses⟩

/-- From texts without names, or with an unknown one, no selection is prepared that is ready. -/
theorem unready_of_unknown (files : FileTree) (blank : session.selection = .empty)
    (unknown : ¬Known names patterns) (after : NumberedSelection)
    (done : Workbench.prepared session files names (selectionChoices patterns) = .ok after) :
    Session.isReady after = false := by
  rcases prepared_cases files blank names patterns with
    ⟨_, refused, -⟩ | ⟨selection, same, -, ready⟩
  · cases refused.symm.trans done
  · obtain rfl := Except.ok.inj (same.symm.trans done)
    exact Bool.eq_false_iff.mpr fun now => unknown (ready.mp now)

/-- Choosing patterns keeps nothing in files. -/
theorem leavesFiles_selectionChoices (files : FileTree) (patterns : List String) :
    ∀ choice ∈ selectionChoices patterns, LeavesFiles files choice := by
  intro choice mem session change edited chosen done
  obtain ⟨name, -, rfl⟩ := List.mem_map.mp mem
  rw [choosePattern] at chosen
  split at chosen <;> cases chosen
  have accepted : session.edit files (.toggle name) = .ok edited := done
  unfold edit at accepted
  dsimp only at accepted
  split at accepted
  · cases accepted
    rfl
  · cases accepted

end NumberedSelection

end PatternRefinement
