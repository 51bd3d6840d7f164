import PatternRefinement.Disposition
import PatternRefinement.Failure
import PatternRefinement.Text.Utf8

/-!
# Archives in responses

What the service answers to a generation request, and the archive in it.

## Main Definitions

* `Response` — a status with headers and a body
* `splitFiles` — the files that a header lists
* `Archive` — what was generated, and the name to save it under
* `Archive.ofResponse` — the archive in a response, or the failure that it tells of
* `Archive.summary` — what the user is told about it

## Design Notes

Only the first header of a name counts, and header names have no letter case. Every response
with a status from 200 to 299 holds an archive, whatever its headers say: each of them has
something to fall back on.
-/

namespace PatternRefinement

/-- An answer of the service. -/
structure Response where
  status : Nat
  headers : List (String × ByteArray)
  body : ByteArray

namespace Response

/-- Whether the service did what it was asked. -/
def isSuccess (response : Response) : Bool :=
  200 ≤ response.status && response.status ≤ 299

/-- A header name as it is compared. -/
def foldName (name : String) : List Char := name.toList.map Char.toLower

/-- The text of the first header with a name. -/
def header? (response : Response) (name : String) : Option String :=
  (response.headers.find? fun header => foldName header.1 == foldName name).map
    fun header => Text.repaired header.2

end Response

/-- The entries of a header that lists files with semicolons between them, trimmed; blank ones
are none. -/
def splitFiles (header : String) : List String :=
  (((header.toList.splitOn ';').map Text.trim).filter (!·.isEmpty)).map String.ofList

/-- What was generated. -/
structure Archive where
  projectName? : Option String
  projectPath? : Option String
  generatedFiles : List String
  /-- The number of files listed, or two for each step if none are. -/
  fileCount : Nat
  /-- The name that the archive should be saved under. -/
  fileName : String
  content : ByteArray

namespace Archive

/-- The archive in a response to a request for some steps. -/
def ofSuccess (response : Response) (stepCount : Nat) : Archive :=
  let projectName? := (response.header? "x-project-name").filter (!·.isEmpty)
  let listed := ((response.header? "x-generated-files").map splitFiles).getD []
  { projectName?,
    projectPath? :=
      ((response.header? "x-project-path").filter (!·.isEmpty)).orElse fun _ => projectName?,
    generatedFiles := listed,
    fileCount := if listed.isEmpty then stepCount * 2 else listed.length,
    fileName :=
      Disposition.archiveName (response.header? "content-disposition") (projectName?.getD ""),
    content := response.body }

/-- What the service tells of a failure: its body, or its status if that is empty. -/
def refusal (response : Response) : String :=
  let text := Text.repaired response.body
  if text.isEmpty then "HTTP " ++ Text.decimal response.status else text

/-- The archive in a response to a request for some steps, or the failure that it tells of. -/
def ofResponse (response : Response) (stepCount : Nat) : Except Failure Archive :=
  if response.isSuccess then .ok (ofSuccess response stepCount)
  else .error (.generationFailed (refusal response))

/-- What the user is told about an archive. -/
def summary (archive : Archive) : String :=
  "Generated " ++ Text.decimal archive.fileCount ++ " file" ++
    (if archive.fileCount = 1 then "" else "s") ++ " in " ++
    archive.projectPath?.getD "workspace" ++ ". Download saved as " ++ archive.fileName ++ "."

end Archive

end PatternRefinement
