import PatternRefinement.Number.Binary64

/-!
# JSON values

## Main Definitions

* `Json.Number` — an integer of at most 64 bits, or a double
* `Json.Value` — a value as it was written, members in their order and repeated ones kept
* `Json.setMember` — a member put among others that are in order of their names
* `Json.Value.canonical` — the value that a reader of maps sees: of two members with one name
  the last one counts, and members are in order of their names

## Design Notes

Requests are judged by what was written, so a value keeps repeated members. A state file is
read as a map and written anew, so it goes through `canonical`.
-/

namespace PatternRefinement.Json

/-- A number: an integer from `-2 ^ 63` to `2 ^ 64 - 1` that was written as one, or a double. -/
inductive Number where
  | integer (value : Int)
  | double (value : Binary64)
  deriving Repr, DecidableEq

/-- A JSON value as it was written. -/
inductive Value where
  | null
  | bool (value : Bool)
  | number (value : Number)
  | string (text : String)
  | array (items : List Value)
  | object (members : List (String × Value))

/-- Puts a member among members that are in order of their names, in place of the one that has
its name. -/
def setMember (name : String) (value : Value) :
    List (String × Value) → List (String × Value)
  | [] => [(name, value)]
  | (other, old) :: rest =>
    if name = other then (name, value) :: rest
    else if name < other then (name, value) :: (other, old) :: rest
    else (other, old) :: setMember name value rest

/-- Puts members one after the other among others that are in order of their names. -/
def setMembers (members sorted : List (String × Value)) : List (String × Value) :=
  members.foldl (fun sorted member => setMember member.1 member.2 sorted) sorted

mutual

/-- The value that a reader of maps sees. -/
def Value.canonical : Value → Value
  | .array items => .array (canonicalItems items)
  | .object members => .object (setMembers (canonicalMembers members) [])
  | value => value

/-- The items that a reader of maps sees. -/
def canonicalItems : List Value → List Value
  | [] => []
  | item :: rest => item.canonical :: canonicalItems rest

/-- The members with the values that a reader of maps sees. -/
def canonicalMembers : List (String × Value) → List (String × Value)
  | [] => []
  | (name, value) :: rest => (name, value.canonical) :: canonicalMembers rest

end

end PatternRefinement.Json
