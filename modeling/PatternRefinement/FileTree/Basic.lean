import PatternRefinement.FileTree.Path

/-!
# File trees

The files and directories that the program can see, as one value.

## Main Definitions

* `Location` — where a node stands: the names that lead from the root down to it
* `Node` — a regular file with its content, or a directory
* `FileTree` — the nodes by location, and the working directory
* `FileError` — why an access is refused, with its text

## Design Notes

A tree is a finite map from locations to nodes, so that an access says in one equation which
location it changes. The root is a directory of every tree. Links, permissions and sizes are
left out: nothing that the program does depends on them.
-/

namespace PatternRefinement

/-- The names that lead from the root of a tree down to a node. -/
abbrev Location := List String

/-- What stands at a location. -/
inductive Node where
  | file (content : ByteArray)
  | directory

/-- Whether a node is a directory. -/
def Node.isDirectory : Node → Bool
  | .directory => true
  | .file _ => false

/-- Why an access to a file tree is refused. -/
inductive FileError where
  /-- Something on the way or at its end is missing. -/
  | notFound
  /-- What is to be created is there already. -/
  | exists
  /-- A name on the way belongs to a regular file. -/
  | notDirectory
  /-- A regular file was expected and a directory found. -/
  | isDirectory
  /-- A name has more than 255 bytes, or the path more than 4095. -/
  | nameTooLong
  /-- The path holds a NUL character. -/
  | containsNul
  deriving Repr, DecidableEq

/-- The text of a refused access. -/
def FileError.message : FileError → String
  | .notFound => "No such file or directory (os error 2)"
  | .exists => "File exists (os error 17)"
  | .notDirectory => "Not a directory (os error 20)"
  | .isDirectory => "Is a directory (os error 21)"
  | .nameTooLong => "File name too long (os error 36)"
  | .containsNul => "file name contained an unexpected NUL byte"

/-- The files and directories that the program can see. Of two nodes at one location the first
one counts. -/
structure FileTree where
  nodes : List (Location × Node)
  /-- Where relative paths start. -/
  workingDirectory : Location

namespace FileTree

/-- The tree with nothing but a working directory. -/
def empty (workingDirectory : Location) : FileTree :=
  let above := (List.range workingDirectory.length).map fun k => workingDirectory.take (k + 1)
  { nodes := above.map fun location => (location, .directory), workingDirectory }

/-- What stands at a location; the root is always a directory. -/
def node? (tree : FileTree) (location : Location) : Option Node :=
  if location = [] then some .directory else tree.nodes.lookup location

/-- The tree without the node at a location. -/
def erase (tree : FileTree) (location : Location) : FileTree :=
  { tree with nodes := tree.nodes.filter fun entry => entry.1 != location }

/-- The tree with the given node at a location. -/
def put (tree : FileTree) (location : Location) (node : Node) : FileTree :=
  { tree with nodes := (location, node) :: (tree.erase location).nodes }

/-- Looking up in a filtered association list finds nothing at the dropped key. -/
theorem lookup_filter_ne (nodes : List (Location × Node)) (location other : Location) :
    (nodes.filter fun entry => entry.1 != location).lookup other
      = if other = location then none else nodes.lookup other := by
  induction nodes with
  | nil => simp
  | cons entry rest ih =>
    obtain ⟨key, node⟩ := entry
    by_cases hk : key = location
    · subst hk
      by_cases ho : other = key
      · simpa [ho] using ih
      · have hb : (other == key) = false := by simpa using ho
        simp [ih, ho, List.lookup_cons, hb]
    · have hd : (key != location) = true := by simpa using hk
      rw [List.filter_cons_of_pos (by simpa using hk), List.lookup_cons, List.lookup_cons, ih]
      by_cases ho : other = key
      · subst ho; simp [hk]
      · have hb : (other == key) = false := by simpa using ho
        simp [hb]

/-- Erasing a location changes what stands there and nothing else. -/
theorem node?_erase (tree : FileTree) {location : Location} (h : location ≠ [])
    (other : Location) :
    (tree.erase location).node? other = if other = location then none else tree.node? other := by
  by_cases ho : other = []
  · simp [node?, ho, Ne.symm h]
  · simp [node?, ho, erase, lookup_filter_ne]

/-- Putting a node at a location changes what stands there and nothing else. -/
theorem node?_put (tree : FileTree) {location : Location} (h : location ≠ []) (node : Node)
    (other : Location) :
    (tree.put location node).node? other
      = if other = location then some node else tree.node? other := by
  by_cases ho : other = []
  · simp [node?, ho, Ne.symm h]
  · by_cases hl : other = location
    · simp [node?, put, hl, h]
    · have hb : (other == location) = false := by simpa using hl
      simp [node?, ho, put, erase, List.lookup_cons, hb, lookup_filter_ne, hl]

end FileTree

end PatternRefinement
