import PatternRefinement.Failure
import PatternRefinement.Text.Blank

/-!
# Catalogs and selections

## Main Definitions

* `Catalog` — the patterns that the service offers, in the order they are shown
* `Selection` — the patterns chosen for one step
* `Selection.toggle` — a pattern chosen, or no longer chosen
* `Selection.keep` — what remains of a selection under another catalog
* `splitNames` — the patterns that a user lists with commas between them

## Design Notes

A selection lists its names in ascending order by code point, each once, so equal choices are
equal selections whatever the order in which they were made. A name that is selected can be
given up even if the catalog no longer offers it.
-/

namespace PatternRefinement

/-- The patterns that the service offers, in the order they are shown. -/
structure Catalog where
  names : List PatternName
  deriving Repr, DecidableEq

namespace Catalog

/-- The catalog without any pattern. -/
def empty : Catalog := ⟨[]⟩

/-- The catalog of the names in a listing; of repeated ones the first counts. -/
def ofNames (names : List PatternName) : Catalog := ⟨names.eraseDups⟩

/-- Whether no pattern is offered. -/
def isEmpty (catalog : Catalog) : Bool := catalog.names.isEmpty

/-- Whether a pattern is offered. -/
def contains (catalog : Catalog) (name : PatternName) : Bool := catalog.names.contains name

end Catalog

/-- The patterns chosen for one step, in ascending order. -/
structure Selection where
  names : List PatternName
  deriving Repr, DecidableEq

/-- Puts a name among others that are in ascending order, unless it is there already. -/
def insertName (name : PatternName) : List PatternName → List PatternName
  | [] => [name]
  | other :: rest =>
    if name < other then name :: other :: rest
    else if name = other then other :: rest
    else other :: insertName name rest

namespace Selection

/-- The selection of nothing. -/
def empty : Selection := ⟨[]⟩

/-- Whether nothing is selected. -/
def isEmpty (selection : Selection) : Bool := selection.names.isEmpty

/-- Whether a name is selected. -/
def contains (selection : Selection) (name : PatternName) : Bool := selection.names.contains name

/-- The selection with one more name. -/
def insert (selection : Selection) (name : PatternName) : Selection :=
  ⟨insertName name selection.names⟩

/-- The selection without a name. -/
def erase (selection : Selection) (name : PatternName) : Selection :=
  ⟨selection.names.filter (· != name)⟩

/-- Gives up a selected name, or selects one that the catalog offers; also tells whether the
name is selected now. -/
def toggle (catalog : Catalog) (selection : Selection) (name : PatternName) :
    Except Failure (Selection × Bool) :=
  if selection.contains name then .ok (selection.erase name, false)
  else if catalog.contains name then .ok (selection.insert name, true)
  else .error (.unknownPattern name)

/-- What remains of a selection when only the names of a catalog are kept. -/
def keep (catalog : Catalog) (selection : Selection) : Selection :=
  ⟨selection.names.filter catalog.contains⟩

/-- How many names are lost when only the names of a catalog are kept. -/
def lost (catalog : Catalog) (selection : Selection) : Nat :=
  selection.names.length - (selection.keep catalog).names.length

end Selection

/-- The names that stand between the commas of a text, trimmed, in the order of their first
occurrence; blank ones are no names. -/
def splitNames (text : String) : List PatternName :=
  ((((text.toList.splitOn ',').map Text.trim).filter (!·.isEmpty)).map String.ofList).eraseDups

end PatternRefinement
