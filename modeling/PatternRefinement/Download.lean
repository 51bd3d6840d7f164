import PatternRefinement.Disposition
import PatternRefinement.Failure
import PatternRefinement.FileTree.Access

/-!
# Saving archives

## Main Definitions

* `Download.safeName` — the part of a name that can stand in a directory
* `Download.stagingName` — the name that an archive has while it is written
* `Download.candidates` — the names that it may get, in the order they are tried
* `Download.save` — an archive saved in a directory

## Design Notes

An archive is written under its staging name first and then moved to the first candidate that
nothing stands at. If it cannot be moved, the staging file is removed, so what is left behind
after a failure is at most a directory.
-/

namespace PatternRefinement.Download

/-! ### Names -/

/-- The part of a name behind its last slash or backslash, trimmed; a fixed name if that part
names nothing that can be created. -/
def safeName (raw : String) : String :=
  let last := (raw.toList.splitOnP fun c => c == '/' || c == '\\').getLast?.getD []
  let name := String.ofList (Text.trim last)
  if name = "" ∨ name = "." ∨ name = ".." then Disposition.defaultArchiveName else name

/-- The name that an archive has while it is written. -/
def stagingName (name : String) : String :=
  "." ++ name ++ ".part"

/-- A name before its last point and behind it, if there is a point that is not the first
character. -/
def splitExtension (name : String) : String × Option String :=
  let reversed := name.toList.reverse
  let extension := reversed.takeWhile (· != '.')
  match reversed.dropWhile (· != '.') with
  | _ :: stem :: rest =>
    (String.ofList (stem :: rest).reverse, some (String.ofList extension.reverse))
  | _ => (name, none)

/-- The name that is tried after `attempt` others: the name itself, and then the name with a
number before its extension. -/
def candidate (name : String) (attempt : Nat) : String :=
  match attempt, splitExtension name with
  | 0, _ => name
  | n, (stem, some extension) => stem ++ " (" ++ Text.decimal n ++ ")." ++ extension
  | n, (stem, none) => stem ++ " (" ++ Text.decimal n ++ ")"

/-- How many names are tried. -/
def maxAttempts : Nat := 1000

/-- The names that an archive may get, in the order they are tried. -/
def candidates (name : String) : List String :=
  (List.range maxAttempts).map (candidate name)

/-! ### Saving -/

/-- The path of the first name that nothing in the directory has. -/
def freePath? (tree : FileTree) (folder : String) :
    List String → Except FileError (Option String)
  | [] => .ok none
  | name :: rest =>
    match tree.exists? (Path.join folder name) with
    | .error e => .error e
    | .ok false => .ok (some (Path.join folder name))
    | .ok true => freePath? tree folder rest

/-- The tree without a file that was written under a staging name. -/
def discard (tree : FileTree) (path : String) : FileTree :=
  match tree.remove path with
  | .ok cleared => cleared
  | .error _ => tree

/-- Moves a staged file to the first free one of its names. -/
def settle (tree : FileTree) (folder name staging : String) :
    FileTree × Except DownloadFailure String :=
  match freePath? tree folder (candidates name) with
  | .error e => (discard tree staging, .error (.file e))
  | .ok none => (discard tree staging, .error (.noFreeName name folder))
  | .ok (some path) =>
    match tree.rename staging path with
    | .error e => (discard tree staging, .error (.file e))
    | .ok moved => (moved, .ok path)

/-- Saves an archive in a directory, which is created if it is missing; gives the path that the
archive got. -/
def save (folder : String) (tree : FileTree) (content : ByteArray) (rawName : String) :
    FileTree × Except DownloadFailure String :=
  let name := safeName rawName
  match tree.makeDirectories folder with
  | (prepared, .error e) => (prepared, .error (.directory folder e))
  | (prepared, .ok ()) =>
    let staging := Path.join folder (stagingName name)
    -- No candidate is longer than the staging name, so a name that is too long fails here.
    match prepared.write staging content with
    | .error e => (discard prepared staging, .error (.file e))
    | .ok staged => settle staged folder name staging

end PatternRefinement.Download
