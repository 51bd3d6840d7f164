import PatternRefinement.Workbench.Edits
import PatternRefinement.Proofs.Counter.Frame
import PatternRefinement.Proofs.Download.Preservation
import PatternRefinement.Proofs.Workbench.Reports

/-!
# What the service can change

## Main Definitions

* `Download.Inside` — where saving archives in a directory may change something

## Main Statements

* `Workbench.files_generate` — which files a generation leaves
* `Workbench.generate_confined` — whatever the service answers, a generation changes nothing outside
  the download directory but the state file

## Design Notes

The service chooses the name of an archive in several ways, and none of them matters here: a name is
made safe where the archive is saved, so everything is true of all names.  The two changes of a
generation are looked at one after the other.  Saving an archive may take away a file, and storing
the number may create a directory at the same place.
-/

namespace PatternRefinement

/-- A location where saving archives in a directory may change something: an entry of the directory,
or the location of a directory that was missing, its own or one above it. -/
def Download.Inside (folder : String) (tree after : FileTree) (location : Location) : Prop :=
  tree.Created after (folder :: Path.ancestors folder) location ∨ after.EntryOf folder location

theorem Download.Inside.keeps {folder : String} {tree after later : FileTree} {location : Location}
    (inside : Download.Inside folder tree after location) (keeps : after.KeepsDirectories later) :
    Download.Inside folder tree later location :=
  inside.imp (fun created => created.keeps keeps) fun entry => keeps.entryOf entry

namespace Workbench

/-! ## The files of a generation -/

/-- An answer of the service is not saved, or its archive is, under some name. -/
theorem files_obtain (deliver : Delivery) (files : FileTree) (stepCount : Nat)
    (answer : Except Failure Response) :
    (obtain deliver files stepCount answer).1 = files ∨
      ∃ content name,
        (obtain deliver files stepCount answer).1 = (deliver files content name).1 := by
  unfold obtain
  split
  · exact Or.inl rfl
  rename_i archive _
  refine Or.inr ⟨archive.content, archive.fileName, ?_⟩
  split
  · rename_i saved
    rw [saved]
  · rename_i saved
    rw [saved]

/-- A generation leaves the files after at most one archive was saved, or what the session makes of
them when it records the success. -/
theorem files_generate {S : Type} [Session S] (deliver : Delivery) (bench : Workbench S)
    (files : FileTree) (answer : GenerationRequest → Except Failure Response) :
    ∃ delivered,
      (delivered = files ∨ ∃ content name, delivered = (deliver files content name).1) ∧
        ((bench.generate deliver files answer).files = delivered ∨
          (bench.generate deliver files answer).files =
            (Session.recordSuccess bench.session delivered).2) := by
  cases idle : bench.busy with
  | true =>
      refine ⟨files, Or.inl rfl, Or.inl ?_⟩
      rw [generate, ask_of_busy idle]
  | false =>
      cases ready : Session.isReady bench.session with
      | false =>
          refine ⟨files, Or.inl rfl, Or.inl ?_⟩
          rw [generate_of_notReady idle ready]
          rfl
      | true =>
          rw [generate_of_ready idle ready]
          refine ⟨_, files_obtain deliver files (Session.stepCount bench.session)
            (answer bench.request), ?_⟩
          cases (obtain deliver files (Session.stepCount bench.session)
              (answer bench.request)).2 with
          | ok report => exact Or.inr rfl
          | error failure => exact Or.inl rfl

/-! ## Confinement -/

/-- Saving at most one archive changes nothing outside the directory. -/
theorem delivered_confined {folder : String} {files delivered : FileTree}
    (saved : delivered = files ∨
      ∃ content name, delivered = (intoDirectory folder files content name).1)
    (location : Location) : delivered.node? location = files.node? location ∨
      Download.Inside folder files delivered location := by
  rcases saved with rfl | ⟨content, name, rfl⟩
  · exact Or.inl rfl
  · exact Download.save_confined folder name content files location

/-- Storing a number after an archive was saved adds nothing to what has changed but the state file
and directories above it. -/
theorem stored_confined {folder : String} {files delivered : FileTree} {location : Location}
    (confined : delivered.node? location = files.node? location ∨
      Download.Inside folder files delivered location)
    (counter : CounterStore) (number : UInt32) :
    let after := counter.save number delivered
    after.node? location = files.node? location ∨ Download.Inside folder files after location ∨
      counter.Touched files after location := by
  intro after
  have keeps : delivered.KeepsDirectories after := counter.save_keeps number delivered
  rcases counter.save_frame number delivered location with same | place | created
  · rcases confined with unchanged | inside
    · exact Or.inl (same.trans unchanged)
    · exact Or.inr (Or.inl (inside.keeps keeps))
  · exact Or.inr (Or.inr (Or.inl place))
  · -- A directory was created where the archive was saved, or where nothing ever was.
    rcases confined with unchanged | inside
    · exact Or.inr (Or.inr (Or.inr ⟨unchanged ▸ created.missing, created.created, created.named⟩))
    · exact Or.inr (Or.inl (inside.keeps keeps))

/-- An archive that is reported has the path of an entry of the directory. -/
theorem savedTo_of_generate {S : Type} [Session S] {folder : String} {bench : Workbench S}
    {files : FileTree} {answer : GenerationRequest → Except Failure Response} {report : Report}
    (generated :
      (bench.generate (intoDirectory folder) files answer).result = .ok (.generated report)) :
    ∃ name, Path.Component name ∧ report.savedTo = Path.join folder name := by
  obtain ⟨_, _, reports⟩ := reports_of_generate generated
  exact (Download.read_of_save (congrArg Prod.snd reports.saved)).2

/-- **The service cannot reach out of the download directory.**  Whatever it answers, a generation
for a plan changes nothing but entries of the download directory and directories that were missing
above them.  A generation for a numbered selection changes the state file as well, and directories
that were missing above that.  An archive that either of them reports has the path of an entry of
the download directory. -/
theorem generate_confined (folder : String) (files : FileTree)
    (answer : GenerationRequest → Except Failure Response) :
    (∀ bench : Workbench Plan,
      let turn := bench.generate (intoDirectory folder) files answer
      (∀ location, turn.files.node? location = files.node? location ∨
        Download.Inside folder files turn.files location) ∧
      ∀ report, turn.result = .ok (.generated report) →
        ∃ name, Path.Component name ∧ report.savedTo = Path.join folder name) ∧
    ∀ bench : Workbench NumberedSelection,
      let turn := bench.generate (intoDirectory folder) files answer
      (∀ location, turn.files.node? location = files.node? location ∨
        Download.Inside folder files turn.files location ∨
          bench.session.counter.Touched files turn.files location) ∧
      ∀ report, turn.result = .ok (.generated report) →
        ∃ name, Path.Component name ∧ report.savedTo = Path.join folder name := by
  constructor
  · intro bench turn
    refine ⟨fun location => ?_, fun report => savedTo_of_generate⟩
    obtain ⟨delivered, saved, done⟩ := bench.files_generate (intoDirectory folder) files answer
    -- A plan stores nothing when an archive has been saved.
    have same : turn.files = delivered := done.elim id id
    rw [same]
    exact delivered_confined saved location
  · intro bench turn
    refine ⟨fun location => ?_, fun report => savedTo_of_generate⟩
    obtain ⟨delivered, saved, done⟩ := bench.files_generate (intoDirectory folder) files answer
    have confined := delivered_confined saved location
    rcases done with same | stored
    · have same : turn.files = delivered := same
      rw [same]
      exact confined.imp_right Or.inl
    · have stored : turn.files =
          bench.session.counter.save (nextRefinement bench.session.refinement) delivered := stored
      rw [stored]
      exact stored_confined confined bench.session.counter _

end Workbench

end PatternRefinement
