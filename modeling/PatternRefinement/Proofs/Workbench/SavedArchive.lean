import PatternRefinement.Proofs.Workbench.Confinement

/-!
# What becomes of a saved archive

## Main Definitions

* `CounterStore.Overwrites` — the number is stored where a path leads

## Main Statements

* `CounterStore.read_save`, `CounterStore.read_save_of_overwrites` — what is read at a path when a
  number has been stored
* `Workbench.saved_archive_of_generate` — after a generation the archive is at its path, unless the
  number was stored there
* `Workbench.saved_archive_lost` — which can happen

## Design Notes

The archive is saved first and the number is stored after it.  A free place is looked for only where
the archive is saved.  The number is written to the state file, whatever stands there by then.
-/

namespace PatternRefinement

namespace CounterStore

variable {store : CounterStore} {tree : FileTree} {path : String}

/-- The number is stored at the place of a path: it can be stored, and then the path and the state
file have one place. -/
def Overwrites (store : CounterStore) (path : String) (tree : FileTree) : Prop :=
  store.Writable tree ∧ ∃ location, (store.makeParent tree).1.FilePlace path location ∧
    (store.makeParent tree).1.FilePlace store.path location

/-- A number that cannot be stored changes nothing but the directories above the state file. -/
theorem save_of_not_writable (blocked : ¬store.Writable tree) (number : UInt32) :
    store.save number tree = (store.makeParent tree).1 := by
  unfold save
  cases made : store.makeParent tree with
  | mk prepared outcome =>
      cases outcome with
      | error e => rfl
      | ok _ =>
          dsimp only
          split
          · rename_i written write
            have done : ((store.makeParent tree).1.write store.path
                (stateText ((store.readState? tree).getD []) number).toUTF8).isOk = true := by
              rw [made, write]
              rfl
            exact absurd (writable_of_write _ (congrArg Prod.snd made) done) blocked
          · rfl

/-- **What is read at a path stays, unless the number is stored there.** -/
theorem read_save {content : ByteArray} (read : tree.read path = .ok content)
    (apart : ¬store.Overwrites path tree) (number : UInt32) :
    (store.save number tree).read path = .ok content := by
  obtain ⟨location, place, here⟩ := FileTree.read_eq_ok_iff.mp read
  have grown := (store.makeParent_createsOnly tree).grown
  have stands := grown.file_iff.mpr here
  have prepared : (store.makeParent tree).1.FilePlace path location :=
    place.of_keeps grown.keeps fun directory => absurd (directory.symm.trans stands) nofun
  have same := store.save_sameDirectories number tree
  refine FileTree.read_eq_ok_iff.mpr ⟨location, same.filePlace_iff.mpr prepared, ?_⟩
  by_cases writable : store.Writable tree
  · refine (file_save_iff (fun there => ?_) content).mpr here
    exact apart ⟨writable, location, prepared, same.filePlace_iff.mp there⟩
  · rw [save_of_not_writable writable]
    exact stands

/-- **Where the number is stored, the text of the state file is read.** -/
theorem read_save_of_overwrites (overwrites : store.Overwrites path tree) (number : UInt32) :
    (store.save number tree).read path =
      .ok (stateText ((store.readState? tree).getD []) number).toUTF8 := by
  obtain ⟨writable, location, place, state⟩ := overwrites
  have same := store.save_sameDirectories number tree
  have stored := stored?_save writable number
  cases read : (store.save number tree).read store.path with
  | error e =>
      rw [stored?, read] at stored
      cases stored
  | ok text =>
      rw [stored?, read] at stored
      obtain rfl := Option.some.inj stored
      obtain ⟨found, there, here⟩ := FileTree.read_eq_ok_iff.mp read
      rw [there.unique (same.filePlace_iff.mpr state)] at here
      exact FileTree.read_eq_ok_iff.mpr ⟨location, same.filePlace_iff.mpr place, here⟩

/-- The number is not stored at the path of an entry with another name than the state file has. -/
theorem not_overwrites {folder folder' name name' : String}
    (path_eq : store.path = Path.join folder' name') (component : Path.Component name)
    (component' : Path.Component name') (apart : name ≠ name') :
    ¬store.Overwrites (Path.join folder name) tree := by
  rintro ⟨-, location, place, state⟩
  rw [path_eq] at state
  exact apart (place.name_eq state component component')

end CounterStore

namespace Workbench

/-- **A saved archive is lost to nothing but the number that is stored after it.**  After a
generation for a numbered selection that gives a report, the body of the response is read at the
path of the report, unless the number was stored in the place of the archive.  Then the text of the
state file is read there. -/
theorem saved_archive_of_generate (bench : Workbench NumberedSelection) (folder : String)
    (files : FileTree) (answer : GenerationRequest → Except Failure Response) (report : Report)
    (generated :
      (bench.generate (intoDirectory folder) files answer).result = .ok (.generated report)) :
    let turn := bench.generate (intoDirectory folder) files answer
    let store := bench.session.counter
    ∃ response, answer bench.request = .ok response ∧
      let delivered := (intoDirectory folder files response.body report.archive.fileName).1
      delivered.read report.savedTo = .ok response.body ∧
      (¬store.Overwrites report.savedTo delivered →
        turn.files.read report.savedTo = .ok response.body) ∧
      (store.Overwrites report.savedTo delivered →
        turn.files.read report.savedTo =
          .ok (CounterStore.stateText ((store.readState? delivered).getD [])
            (nextRefinement bench.session.refinement)).toUTF8) := by
  intro turn store
  obtain ⟨response, delivered, reports⟩ := reports_of_generate generated
  have saved : Download.save folder files response.body report.archive.fileName =
      (delivered, .ok report.savedTo) := reports.saved
  have read := (Download.read_of_save (congrArg Prod.snd saved)).1
  have stored : turn.files =
      store.save (nextRefinement bench.session.refinement) delivered := reports.files_eq
  rw [saved] at read
  refine ⟨response, reports.answered, ?_⟩
  rw [reports.saved, stored]
  exact ⟨read, fun apart => store.read_save read apart _,
    fun overwrites => store.read_save_of_overwrites overwrites _⟩

/-- The archive and the state file stand side by side. -/
theorem saved_archive_of_generate_beside :
    let selection : NumberedSelection := ⟨⟨["north"]⟩, ⟨["north"]⟩, ⟨"state.json"⟩, 1⟩
    let bench : Workbench NumberedSelection := ⟨selection, none, none, false⟩
    let files := FileTree.empty ["home"]
    let answer : GenerationRequest → Except Failure Response := fun _ => .ok
      ⟨200, [("content-disposition", "attachment; filename=Acme.zip".toUTF8)], "PK".toUTF8⟩
    let turn := bench.generate (intoDirectory ".") files answer
    ∃ report, turn.result = .ok (.generated report) ∧
      turn.files.read report.savedTo = .ok "PK".toUTF8 := by
  intro selection bench files answer turn
  have given : turn.report?.map (·.savedTo) = some "./Acme.zip" := by
    decide +kernel +revert
  obtain ⟨report, found, savedTo⟩ := Option.map_eq_some_iff.mp given
  have generated := Turn.result_of_report? found
  clear given found
  subst turn
  obtain ⟨response, answered, -, kept, -⟩ :=
    saved_archive_of_generate bench "." files answer report generated
  obtain rfl := Except.ok.inj answered
  have state : selection.counter.path = Path.join "" "state.json" := rfl
  have entry : "./Acme.zip" = Path.join "." "Acme.zip" := rfl
  refine ⟨report, generated, kept ?_⟩
  rw [savedTo, entry]
  exact CounterStore.not_overwrites state ⟨by decide, by decide, by decide, by decide⟩
    ⟨by decide, by decide, by decide, by decide⟩ (by decide)

/-- The service calls the archive like the state file, and it is saved where that belongs. -/
theorem saved_archive_lost :
    let selection : NumberedSelection := ⟨⟨["north"]⟩, ⟨["north"]⟩, ⟨"state.json"⟩, 1⟩
    let bench : Workbench NumberedSelection := ⟨selection, none, none, false⟩
    let files := FileTree.empty ["home"]
    let answer : GenerationRequest → Except Failure Response := fun _ => .ok
      ⟨200, [("content-disposition", "attachment; filename=state.json".toUTF8)], "PK".toUTF8⟩
    let turn := bench.generate (intoDirectory ".") files answer
    ∃ report, turn.result = .ok (.generated report) ∧ report.savedTo = "./state.json" ∧
      turn.files.read report.savedTo = .ok (CounterStore.stateText [] 2).toUTF8 ∧
      turn.files.read report.savedTo ≠ .ok "PK".toUTF8 := by
  intro selection bench files answer turn
  have given : turn.report?.map (·.savedTo) = some "./state.json" := by
    decide +kernel +revert
  obtain ⟨report, found, savedTo⟩ := Option.map_eq_some_iff.mp given
  refine ⟨report, Turn.result_of_report? found, savedTo, ?_, ?_⟩
  all_goals
    rw [savedTo]
    decide +kernel +revert

end Workbench

end PatternRefinement
