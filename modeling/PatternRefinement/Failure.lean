import PatternRefinement.FileTree.Basic
import PatternRefinement.WebAddress.Basic

/-!
# Failures

Everything that an operation can be refused for, as a cause, and the wording of each.

## Main Definitions

* `DownloadFailure` — why an archive could not be saved
* `Failure` — why an operation was refused
* `Failure.message` — what the user is told

## Design Notes

Reasons that come from outside, from the service or from the way to it, are texts; everything
that is found out here is a cause of its own.
-/

namespace PatternRefinement

/-- A pattern is known by its name, letter by letter. -/
abbrev PatternName := String

/-- The greatest number of refinement steps. -/
def maxRefinementSteps : Nat := 20

/-- Why an archive could not be saved. -/
inductive DownloadFailure where
  /-- The download directory is missing and could not be created. -/
  | directory (path : String) (error : FileError)
  /-- The file could not be written, looked for or moved. -/
  | file (error : FileError)
  /-- All names that the archive may have in the directory are taken. -/
  | noFreeName (name folder : String)
  deriving Repr, DecidableEq

/-- The wording of a download failure. -/
def DownloadFailure.message : DownloadFailure → String
  | .directory path error => path ++ ": " ++ error.message
  | .file error => error.message
  | .noFreeName name folder => "no free file name for " ++ name ++ " in " ++ folder

/-- Why an operation was refused. -/
inductive Failure where
  /-- The patterns could not be listed. -/
  | catalogLoad (reason : String)
  /-- The number of steps is zero or too great. -/
  | invalidStepCount (count : Nat)
  /-- There is no step with this number. -/
  | stepOutOfRange (index length : Nat)
  /-- The pattern is not in the catalog. -/
  | unknownPattern (name : PatternName)
  /-- A step has no pattern yet, or there is none. -/
  | notReady
  /-- A generation is under way. -/
  | busy
  /-- The service did not generate an archive. -/
  | generationFailed (reason : String)
  /-- The archive could not be saved. -/
  | downloadFailed (cause : DownloadFailure)
  /-- The address of the service is none. -/
  | invalidServerUrl (url : String) (error : AddressError)
  deriving Repr, DecidableEq

/-- What the user is told about a refused operation. -/
def Failure.message : Failure → String
  | .catalogLoad reason => reason
  | .invalidStepCount count =>
    if count < 1 then "Enter a refinement count of at least 1."
    else "Please choose " ++ Text.decimal maxRefinementSteps ++
      " refinements or fewer to keep things manageable."
  | .stepOutOfRange index length =>
    "refinement " ++ Text.decimal index ++ " does not exist (configured: " ++
      Text.decimal length ++ ")"
  | .unknownPattern name => "pattern '" ++ name ++ "' is not offered by the current catalog"
  | .notReady => "Select at least one pattern for each refinement before generating."
  | .busy => "a generation request is already in flight"
  | .generationFailed reason => reason
  | .downloadFailed cause => "failed to save download: " ++ cause.message
  | .invalidServerUrl url error => "invalid server url '" ++ url ++ "': " ++ error.message

end PatternRefinement
