/-!
# TOML tables

## Main Definitions

* `Toml.Value` — a value, with tables told apart by how they came to be
* `Toml.assign` — a value put into a table under a dotted key
* `Toml.within` — a table that a header names, changed

## Design Notes

A table may be defined once. A header defines the last table on its path and leaves the ones
above it open; a dotted key opens the tables on its path to further dotted keys only. So each
table remembers which of the three it owes itself to. A table in braces is closed when it ends.
-/

namespace PatternRefinement.Toml

/-- What a table owes itself to. -/
inductive Origin where
  /-- A header of its own. -/
  | header
  /-- The header of a table below it. -/
  | headerBelow
  /-- A dotted key. -/
  | dottedKey
  deriving Repr, DecidableEq

/-- A TOML value. Numbers, booleans and dates are recognised and not kept. -/
inductive Value where
  | string (text : String)
  | scalar
  | array (items : List Value)
  /-- A table in braces. -/
  | braced (members : List (String × Value))
  | table (origin : Origin) (members : List (String × Value))
  /-- The tables of repeated headers in double brackets. -/
  | tables (all : List (List (String × Value)))

/-- The members of a table. -/
abbrev Members := List (String × Value)

/-- Members with the value of a name replaced, or the name added; the change may be refused. -/
def update (name : String) (change : Option Value → Option Value) : Members → Option Members
  | [] => (change none).map fun value => [(name, value)]
  | (other, value) :: rest =>
    if other = name then (change (some value)).map fun value => (other, value) :: rest
    else (update name change rest).map ((other, value) :: ·)

/-- A value under a name that is new. -/
def define (name : String) (value : Value) (members : Members) : Option Members :=
  update name (fun old => if old.isSome then none else some value) members

/-- A list of tables with the last one changed. -/
def updateLast (change : Members → Option Members) : List Members → Option (List Members)
  | [] => none
  | [last] => (change last).map ([·])
  | first :: rest => (updateLast change rest).map (first :: ·)

/-- A value put into members under a dotted key. `owned` says that the members may be added to
by a key that ends here. -/
def assign (owned : Bool) (value : Value) : List String → Members → Option Members
  | [], _ => none
  | [name], members => if owned then define name value members else none
  | name :: rest, members =>
    update name (fun old =>
      match old with
      | none => (assign true value rest []).map (.table .dottedKey)
      | some (.table .header _) => none
      | some (.table origin inner) =>
        (assign (origin == .dottedKey) value rest inner).map (.table origin)
      | some (.tables all) => (updateLast (assign false value rest) all).map .tables
      | some _ => none) members

/-- A table named from outside by a header, changed; tables on the way that are missing are
opened, and of repeated ones the last counts. -/
def within (change : Members → Option Members) : List String → Members → Option Members
  | [], members => change members
  | name :: rest, members =>
    update name (fun old =>
      match old with
      | none => (within change rest []).map (.table .headerBelow)
      | some (.table origin inner) => (within change rest inner).map (.table origin)
      | some (.tables all) => (updateLast (within change rest) all).map .tables
      | some _ => none) members

end PatternRefinement.Toml
