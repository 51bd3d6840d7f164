import PatternRefinement.Toml.Table
import PatternRefinement.Toml.Text
import PatternRefinement.Toml.Scalar

/-!
# TOML documents

## Main Definitions

* `value` — a value, its arrays and tables in braces nested to a bounded depth
* `Document` — the tables so far, and the one that lines are added to
* `read?` — the members of the table that a text is

## Design Notes

A document is read line by line. The table of the last header is kept apart from the others
until the next header comes, and is then put where its header says.
-/

namespace PatternRefinement.Toml

open Text (Reader)

/-! ### Values -/

/-- Reads a key, an equals sign and a value. -/
def assignment (value : Reader Value) : Reader (List String × Value) := fun text =>
  match key text with
  | some (parts, '=' :: rest) =>
    (value (skipBlanks rest)).map fun (value, rest) => ((parts, value), rest)
  | _ => none

/-- Reads an item of an array, or nothing where the array ends. -/
def itemOrEnd (value : Reader Value) : Reader (Option Value) := fun text =>
  match skipLines text with
  | ']' :: rest => some (none, ']' :: rest)
  | text => (value text).map fun (item, rest) => (some item, rest)

/-- Reads an array from behind its bracket; a comma may stand behind the last item. -/
def array (value : Reader Value) : Reader Value := fun text =>
  match Text.separated (itemOrEnd value) skipLines ',' text with
  | some (items, ']' :: rest) => some (.array (items.filterMap id), rest)
  | _ => none

/-- The table in braces that assignments make. -/
def bracedOf? (assignments : List (List String × Value)) : Option Value :=
  (assignments.foldlM (fun members (key, value) => assign true value key members) []).map .braced

/-- Reads a table in braces from behind the first one. -/
def braced (value : Reader Value) : Reader Value := fun text =>
  match skipBlanks text with
  | '\x7d' :: rest => some (.braced [], rest)
  | text =>
    match Text.separated (assignment value) skipBlanks ',' text with
    | some (assignments, '\x7d' :: rest) =>
      (bracedOf? assignments).map fun table => (table, rest)
    | _ => none

/-- Reads a word that is a value. -/
def word (letters : String) (text : List Char) : Option (Value × List Char) :=
  if letters.toList.isPrefixOf text then some (.scalar, text.drop letters.length) else none

/-- Whether a number or date may begin with a character. -/
def beginsScalar (c : Char) : Bool :=
  c.isDigit || c == '+' || c == '-' || c == 'i' || c == 'n'

/-- Reads a value, arrays and tables in braces nested at most `depth` deep. -/
def value : (depth : Nat) → Reader Value
  | depth, text =>
    match text with
    | [] => none
    | c :: rest =>
      if c = '"' ∨ c = '\x27' then (string text).map fun (s, rest) => (.string s, rest)
      else if c = '[' then
        match depth with
        | 0 => none
        | depth + 1 => array (value depth) rest
      else if c = '\x7b' then
        match depth with
        | 0 => none
        | depth + 1 => braced (value depth) rest
      else if c = 't' then word "true" text
      else if c = 'f' then word "false" text
      else if beginsScalar c then (scalar? text).map fun rest => (.scalar, rest)
      else none

/-! ### Lines -/

/-- The tables so far, and the one that lines are added to. -/
structure Document where
  root : Members
  /-- The path in the header of the open table; empty before the first header. -/
  path : List String
  /-- Whether the header has double brackets. -/
  repeated : Bool
  /-- The members of the open table. -/
  members : Members

namespace Document

/-- The document without lines. -/
def empty : Document := ⟨[], [], false, []⟩

/-- The members of the whole document, the open table put where its header says. -/
def finished? (document : Document) : Option Members :=
  match document.path.getLast? with
  | none => some document.members
  | some name =>
    let place (old : Option Value) : Option Value :=
      if document.repeated then
        match old with
        | none => some (.tables [document.members])
        | some (.tables all) => some (.tables (all ++ [document.members]))
        | some _ => none
      else if old.isSome then none
      else some (.table .header document.members)
    within (update name place) document.path.dropLast document.root

/-- The members of the table that a name has while only tables below it have headers, or of a
table that is missing. -/
def openable? : Option Value → Option Members
  | none => some []
  | some (.table .headerBelow members) => some members
  | some _ => none

/-- The document with the table of a header open. -/
def openTable (document : Document) (path : List String) : Option Document :=
  match document.finished?, path.getLast? with
  | some root, some name =>
    let above := path.dropLast
    let find (members : Members) : Option Value := members.lookup name
    -- Going there creates the tables above, so that the table can be looked for among them.
    match within some above root with
    | none => none
    | some root =>
      match (childrenAt above root).bind fun members => openable? (find members) with
      | none => none
      | some members =>
        (within (fun siblings => some (siblings.filter (·.1 != name))) above root).map
          fun root => ⟨root, path, false, members⟩
  | _, _ => none
where
  /-- The members of the table at a path. -/
  childrenAt : List String → Members → Option Members
    | [], members => some members
    | name :: rest, members =>
      match members.lookup name with
      | some (.table _ inner) => childrenAt rest inner
      | some (.tables all) => (all.getLast?).bind (childrenAt rest)
      | _ => none

/-- The document with another table of a repeated header open. -/
def openRepeated (document : Document) (path : List String) : Option Document :=
  match document.finished?, path.getLast? with
  | some root, some name =>
    (within (update name fun old =>
        match old with
        | none => some (.tables [])
        | some (.tables all) => some (.tables all)
        | some _ => none) path.dropLast root).map fun root => ⟨root, path, true, []⟩
  | _, _ => none

/-- The document with an assignment added to the open table. -/
def add (document : Document) (key : List String) (value : Value) : Option Document :=
  (assign true value key document.members).map fun members => { document with members }

end Document

/-- Adds what a header says, from behind its first bracket. -/
def header (document : Document) (text : List Char) : Option (Document × List Char) :=
  match text with
  | '[' :: text =>
    match key text with
    | some (path, ']' :: ']' :: rest) => (document.openRepeated path).map fun d => (d, rest)
    | _ => none
  | text =>
    match key text with
    | some (path, ']' :: rest) => (document.openTable path).map fun d => (d, rest)
    | _ => none

/-- Adds a header or an assignment. -/
def line (document : Document) (text : List Char) : Option (Document × List Char) :=
  match text with
  | '[' :: rest => header document rest
  | text =>
    match assignment (value maxDepth) text with
    | some ((key, value), rest) => (document.add key value).map fun d => (d, rest)
    | none => none

/-- Adds the lines of a text, at most `fuel`. -/
def lines : (fuel : Nat) → Document → List Char → Option Document
  | 0, _, _ => none
  | fuel + 1, document, text =>
    match skipLines text with
    | [] => some document
    -- Lines are skipped with their comments, so this one is the last and has no line end.
    | '#' :: rest => if (skipComment ('#' :: rest)).isEmpty then some document else none
    | text =>
      match line document text with
      | none => none
      | some (document, rest) => (lineEnd? rest).bind (lines fuel document)

/-- A text without the mark that tells its byte order. -/
def withoutMark : List Char → List Char
  | '\uFEFF' :: rest => rest
  | text => text

/-- The members of the table that a text is. -/
def read? (text : String) : Option Members :=
  let text := withoutMark text.toList
  (lines (text.length + 1) .empty text).bind Document.finished?

end PatternRefinement.Toml
