import PatternRefinement.FileTree.Basic

/-!
# Access to a file tree

Looking up, reading, writing, creating, moving and removing by path.

## Main Definitions

* `walk` — the directory that a sequence of names leads to
* `locate` — where the last name of a path is to be looked up
* `status`, `read`, `exists?` — what a path leads to
* `write`, `makeDirectory`, `makeDirectories`, `rename`, `remove` — the changes
* `listing` — everything under the working directory

## Design Notes

Every name but the last one of a path has to belong to a directory. The last one is looked up
by the operation itself, because operations differ in what they expect to find there and in
the order in which they complain. An operation that fails leaves the tree as it was, except
`makeDirectories`, which may have created some of the directories before it fails.
-/

namespace PatternRefinement.FileTree

/-- The greatest number of bytes in a name. -/
def maxNameBytes : Nat := 255

/-- The greatest number of bytes in a path. -/
def maxPathBytes : Nat := 4095

/-! ### Following a path -/

/-- The directory that one name leads to. -/
def enter (tree : FileTree) (location : Location) (name : String) :
    Except FileError Location :=
  if name = "." then .ok location
  else if name = ".." then .ok location.dropLast
  else if maxNameBytes < name.utf8ByteSize then .error .nameTooLong
  else
    match tree.node? (location ++ [name]) with
    | none => .error .notFound
    | some (.file _) => .error .notDirectory
    | some .directory => .ok (location ++ [name])

/-- The directory that names lead to, one after the other. -/
def walk (tree : FileTree) (location : Location) : List String → Except FileError Location
  | [] => .ok location
  | name :: rest =>
    match tree.enter location name with
    | .ok next => tree.walk next rest
    | .error e => .error e

/-- Where the last name of a path is to be looked up. -/
structure Destination where
  /-- An existing directory. -/
  directory : Location
  /-- The name to look up there; without one the path leads to the directory itself. -/
  name? : Option String
  /-- Whether the path ends in a slash, and so may only lead to a directory. -/
  closed : Bool
  deriving Repr, DecidableEq

/-- Follows a path up to its last name. -/
def locate (tree : FileTree) (path : String) : Except FileError Destination :=
  if path.toList.contains '\x00' then .error .containsNul
  else if path.isEmpty then .error .notFound
  else if maxPathBytes < path.utf8ByteSize then .error .nameTooLong
  else
    let start := if Path.isAbsolute path then [] else tree.workingDirectory
    let names := Path.names path
    match tree.walk start names.dropLast with
    | .error e => .error e
    | .ok directory =>
      match names.getLast? with
      | none => .ok ⟨directory, none, true⟩
      | some "." => .ok ⟨directory, none, true⟩
      | some ".." => .ok ⟨directory.dropLast, none, true⟩
      | some name => .ok ⟨directory, some name, Path.endsWithSlash path⟩

/-- The location that a name has, and what stands there. -/
def childAt (tree : FileTree) (directory : Location) (name : String) :
    Except FileError (Location × Option Node) :=
  if maxNameBytes < name.utf8ByteSize then .error .nameTooLong
  else .ok (directory ++ [name], tree.node? (directory ++ [name]))

/-- What a path leads to, and where that is. -/
def status (tree : FileTree) (path : String) : Except FileError (Location × Node) :=
  match tree.locate path with
  | .error e => .error e
  | .ok ⟨directory, none, _⟩ => .ok (directory, .directory)
  | .ok ⟨directory, some name, closed⟩ =>
    match tree.childAt directory name with
    | .error e => .error e
    | .ok (_, none) => .error .notFound
    | .ok (location, some .directory) => .ok (location, .directory)
    | .ok (location, some (.file content)) =>
      if closed then .error .notDirectory else .ok (location, .file content)

/-! ### Looking -/

/-- The content of the regular file that a path leads to. -/
def read (tree : FileTree) (path : String) : Except FileError ByteArray :=
  match tree.status path with
  | .error e => .error e
  | .ok (_, .directory) => .error .isDirectory
  | .ok (_, .file content) => .ok content

/-- The content of the file that a path leads to, if it can be read and is well-formed text. -/
def readText? (tree : FileTree) (path : String) : Option String :=
  match tree.read path with
  | .ok content => String.fromUTF8? content
  | .error _ => none

/-- Whether a path leads to anything. A path that cannot be followed for another reason than a
missing name is an error. -/
def exists? (tree : FileTree) (path : String) : Except FileError Bool :=
  match tree.status path with
  | .ok _ => .ok true
  | .error .notFound => .ok false
  | .error e => .error e

/-- Whether a path leads to a directory. -/
def isDirectory (tree : FileTree) (path : String) : Bool :=
  match tree.status path with
  | .ok (_, .directory) => true
  | _ => false

/-! ### Changing -/

/-- Writes a regular file, which is created or gets new content. -/
def write (tree : FileTree) (path : String) (content : ByteArray) :
    Except FileError FileTree :=
  match tree.locate path with
  | .error e => .error e
  | .ok ⟨_, none, _⟩ => .error .isDirectory
  | .ok ⟨directory, some name, closed⟩ =>
    if closed then .error .isDirectory
    else
      match tree.childAt directory name with
      | .error e => .error e
      | .ok (_, some .directory) => .error .isDirectory
      | .ok (location, _) => .ok (tree.put location (.file content))

/-- Creates one directory. -/
def makeDirectory (tree : FileTree) (path : String) : Except FileError FileTree :=
  match tree.locate path with
  | .error e => .error e
  | .ok ⟨_, none, _⟩ => .error .exists
  | .ok ⟨directory, some name, _⟩ =>
    match tree.childAt directory name with
    | .error e => .error e
    | .ok (_, some _) => .error .exists
    | .ok (location, none) => .ok (tree.put location .directory)

/-- Creates a directory unless the path leads to one already. -/
def ensureDirectory (tree : FileTree) (path : String) : FileTree × Except FileError Unit :=
  match tree.makeDirectory path with
  | .ok changed => (changed, .ok ())
  | .error e => (tree, if tree.isDirectory path then .ok () else .error e)

/-- Creates the directory at the head of a list, and before it those directories of the rest
that are missing. -/
def makeAscending (tree : FileTree) : List String → FileTree × Except FileError Unit
  | [] => (tree, .ok ())
  | path :: above =>
    match tree.ensureDirectory path with
    -- Only a missing directory above is worth another attempt.
    | (unchanged, .error .notFound) =>
      match unchanged.makeAscending above with
      | (changed, .ok ()) => changed.ensureDirectory path
      | (changed, .error e) => (changed, .error e)
    | done => done

/-- Creates a directory and those above it that are missing. The empty path asks for nothing. -/
def makeDirectories (tree : FileTree) (path : String) : FileTree × Except FileError Unit :=
  if path.isEmpty then (tree, .ok ()) else tree.makeAscending (path :: Path.ancestors path)

/-- Removes a regular file. -/
def remove (tree : FileTree) (path : String) : Except FileError FileTree :=
  match tree.status path with
  | .error e => .error e
  | .ok (_, .directory) => .error .isDirectory
  | .ok (location, .file _) => .ok (tree.erase location)

/-- Moves a regular file to another path, over a regular file that stands there. -/
def rename (tree : FileTree) (source target : String) : Except FileError FileTree :=
  match tree.status source with
  | .error e => .error e
  | .ok (_, .directory) => .error .isDirectory
  | .ok (location, .file content) =>
    match tree.write target content with
    | .error e => .error e
    | .ok written =>
      -- Two paths may lead to one file; moving it onto itself changes nothing.
      match tree.status target with
      | .ok (same, _) => .ok (if same = location then tree else written.erase location)
      | .error _ => .ok (written.erase location)

/-! ### The view from the working directory -/

/-- The names that lead from the working directory to a location under it. -/
def relative? (tree : FileTree) (location : Location) : Option (List String) :=
  if tree.workingDirectory.isPrefixOf location then
    some (location.drop tree.workingDirectory.length)
  else none

/-- Everything under the working directory by its path; the path of a directory ends in a
slash. -/
def listing (tree : FileTree) : List (String × Node) :=
  let entries := tree.nodes.filterMap fun (location, node) =>
    match tree.relative? location with
    | none | some [] => none
    | some names =>
      let path := "/".intercalate names
      some (if node.isDirectory then path ++ "/" else path, node)
  entries.mergeSort fun a b => a.1 ≤ b.1

end PatternRefinement.FileTree
