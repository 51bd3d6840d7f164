/-!
# Paths

A path is a text whose names are separated by slashes. It is absolute if it starts with a
slash, and relative to the working directory otherwise.

## Main Definitions

* `Path.names` — the names along a path, empty ones dropped
* `Path.join` — the path of an entry inside a directory
* `Path.parent?`, `Path.ancestors` — the path without its last name, and so on up to the root
* `Path.fileName?` — the last name of a path

## Design Notes

Between two names a dot says nothing, so `a/./b` has the ancestor `a`; only a path that begins
with a dot keeps it. Two dots are a name like any other here: what they lead to depends on the
tree that the path is looked up in.
-/

namespace PatternRefinement.Path

/-- Whether a path starts at the root. -/
def isAbsolute (path : String) : Bool :=
  path.toList.head? == some '/'

/-- Whether a path ends in a slash, and so can only name a directory. -/
def endsWithSlash (path : String) : Bool :=
  path.toList.getLast? == some '/'

/-- The names along a path; those between two adjacent slashes are dropped. -/
def names (path : String) : List String :=
  ((path.toList.splitOn '/').filter (!·.isEmpty)).map String.ofList

/-- The names along a path that tell it from others: the dots behind the first name say
nothing, and on an absolute path no dot does. -/
def significantNames (path : String) : List String :=
  match names path with
  | [] => []
  | first :: rest =>
    if isAbsolute path then (first :: rest).filter (· != ".")
    else first :: rest.filter (· != ".")

/-- The path along the given names. -/
def ofNames (absolute : Bool) (names : List String) : String :=
  (if absolute then "/" else "") ++ "/".intercalate names

/-- The path of an entry inside a directory. An absolute entry stays where it is, and the empty
directory adds nothing. -/
def join (directory entry : String) : String :=
  if isAbsolute entry then entry
  else if directory.isEmpty || endsWithSlash directory then directory ++ entry
  else directory ++ "/" ++ entry

/-- The path without its last name; a path without any name has none. -/
def parent? (path : String) : Option String :=
  match significantNames path with
  | [] => none
  | first :: rest => some (ofNames (isAbsolute path) ((first :: rest).dropLast))

/-- The directories above a path, the nearest one first, as far as they have a name of their
own or are the root. -/
def ancestors (path : String) : List String :=
  let absolute := isAbsolute path
  let names := significantNames path
  let shorter := (List.range names.length).reverse.map names.take
  (shorter.filter fun names => absolute || !names.isEmpty).map (ofNames absolute)

/-- The last name of a path, unless it leads upwards. -/
def fileName? (path : String) : Option String :=
  (significantNames path).getLast?.filter fun name => name != ".." && name != "."

end PatternRefinement.Path
