import PatternRefinement.Proofs.Download.GivenName
import PatternRefinement.Proofs.Workbench.Reports
import PatternRefinement.Workbench.Edits

/-!
# The name that the user is told

## Main Definitions

* `Archive.account` — what the user is told about an archive before its name

## Main Statements

* `Workbench.told_name_of_generate` — the user is told the name that the service chose, and the file
  has this name exactly if it is safe and was free
* `Workbench.told_name_of_second_archive` — which need not be so

## Design Notes

What the user is told is written down before the archive is saved, and so before it is known whether
the archive can keep its name.
-/

namespace PatternRefinement

/-- What the user is told about an archive before its name. -/
def Archive.account (archive : Archive) : String :=
  "Generated " ++ Text.decimal archive.fileCount ++ " file" ++
    (if archive.fileCount = 1 then "" else "s") ++ " in " ++
    archive.projectPath?.getD "workspace"

theorem Archive.summary_eq (archive : Archive) :
    archive.summary = archive.account ++ ". Download saved as " ++ archive.fileName ++ "." := rfl

namespace Workbench

variable {S : Type} [Session S]

/-- **The user is told the name that was read from the response**, whatever the file is called.  At
any workbench, after a generation with a report, this name stands in the last message.  The file has
it exactly if it was safe and no entry of the download directory had it. -/
theorem told_name_of_generate (bench : Workbench S) (folder : String) (files : FileTree)
    (answer : GenerationRequest → Except Failure Response) (report : Report)
    (generated :
      (bench.generate (intoDirectory folder) files answer).result = .ok (.generated report)) :
    let turn := bench.generate (intoDirectory folder) files answer
    let name := report.archive.fileName
    (∃ response, answer bench.request = .ok response ∧
      Archive.ofResponse response (Session.stepCount bench.session) = .ok report.archive) ∧
    turn.bench.current? =
      some (.info (report.archive.account ++ ". Download saved as " ++ name ++ ".")) ∧
    turn.messages.getLast? = turn.bench.current? ∧
    (Path.fileName? report.savedTo = some name ↔ Download.Safe name ∧
      (files.makeDirectories folder).1.exists? (Path.join folder name) = .ok false) := by
  intro turn name
  obtain ⟨response, delivered, reports⟩ := reports_of_generate generated
  have saved : (Download.save folder files response.body name).2 = .ok report.savedTo :=
    congrArg Prod.snd reports.saved
  refine ⟨⟨response, reports.answered, reports.read⟩, ?_, ?_, Download.fileName?_of_save saved⟩
  · rw [← Archive.summary_eq]
    exact reports.current_eq
  · rw [reports.messages_eq, reports.current_eq]
    rfl

/-- The name of the first archive in a directory is safe and free. -/
theorem told_name_of_first_archive :
    let bench : Workbench Plan := ⟨⟨⟨["north"]⟩, [⟨1, ⟨["north"]⟩⟩]⟩, none, none, false⟩
    let files := FileTree.empty ["home"]
    let answer : GenerationRequest → Except Failure Response := fun _ => .ok
      ⟨200, [("content-disposition", "attachment; filename=Acme.zip".toUTF8)], "PK".toUTF8⟩
    let turn := bench.generate (intoDirectory "dl") files answer
    ∃ report, turn.result = .ok (.generated report) ∧
      turn.bench.current? = some (.info (report.archive.account ++ ". Download saved as " ++
        report.archive.fileName ++ ".")) ∧
      Path.fileName? report.savedTo = some report.archive.fileName := by
  intro bench files answer turn
  have given : turn.report?.map (·.archive.fileName) = some "Acme.zip" := by
    decide +kernel +revert
  have free : (files.makeDirectories "dl").1.exists? (Path.join "dl" "Acme.zip") = .ok false := by
    decide +kernel +revert
  have safe : Download.Safe "Acme.zip" :=
    ⟨⟨by decide, by decide, by decide, by decide⟩, by decide, by decide +kernel⟩
  obtain ⟨report, found, named⟩ := Option.map_eq_some_iff.mp given
  have generated := Turn.result_of_report? found
  clear given found
  subst turn
  obtain ⟨-, told, -, kept⟩ := told_name_of_generate bench "dl" files answer report generated
  refine ⟨report, generated, told, kept.mpr ?_⟩
  rw [named]
  exact ⟨safe, free⟩

/-- The first archive was saved before, so the second one is saved under another name.  The user is
told the first name again. -/
theorem told_name_of_second_archive :
    let bench : Workbench Plan := ⟨⟨⟨["north"]⟩, [⟨1, ⟨["north"]⟩⟩]⟩, none, none, false⟩
    let files := ((FileTree.empty ["home"]).put ["home", "dl"] .directory).put
      ["home", "dl", "Acme.zip"] (.file "old".toUTF8)
    let answer : GenerationRequest → Except Failure Response := fun _ => .ok
      ⟨200, [("content-disposition", "attachment; filename=Acme.zip".toUTF8)], "PK".toUTF8⟩
    let turn := bench.generate (intoDirectory "dl") files answer
    ∃ report, turn.result = .ok (.generated report) ∧
      Path.fileName? report.savedTo = some "Acme (1).zip" ∧
      turn.bench.current? =
        some (.info "Generated 2 files in workspace. Download saved as Acme.zip.") := by
  intro bench files answer turn
  have given : turn.report?.map (·.savedTo) = some "dl/Acme (1).zip" := by
    decide +kernel +revert
  obtain ⟨report, found, savedTo⟩ := Option.map_eq_some_iff.mp given
  refine ⟨report, Turn.result_of_report? found, ?_, by decide +kernel +revert⟩
  rw [savedTo]
  decide +kernel

end Workbench

end PatternRefinement
