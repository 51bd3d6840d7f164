import PatternRefinement.Text.Reader

/-!
# Tables of characters

## Main Definitions

* `words`, `number`, `range` — what tables are written with
* `Ranges` — a set of characters
* `Ranges.read`, `Ranges.contains` — such a set as a table, and what it holds

## Design Notes

A table is a text of words. Characters are written as hexadecimal numbers, and a hyphen between two
of them stands for all from the first to the last.
-/

namespace PatternRefinement.Character

/-- The words of a text with blanks or line ends between them. -/
def words (text : String) : List (List Char) :=
  (text.toList.splitOnP fun c => c == ' ' || c == '\n').filter (!·.isEmpty)

/-- The number that hexadecimal digits denote. -/
def number (digits : List Char) : Nat :=
  digits.foldl (fun n c => 16 * n + (Text.hexDigit? c).getD 0) 0

/-- The first and the last number of a range. -/
def range (word : List Char) : Nat × Nat :=
  match Text.cutAt '-' word with
  | (first, some last) => (number first, number last)
  | (only, none) => (number only, number only)

/-- A set of characters, each known by its number. -/
abbrev Ranges := List (Nat × Nat)

namespace Ranges

/-- Reads a table of ranges. -/
def read (text : String) : Ranges :=
  (words text).map range

/-- Whether a set holds a character. -/
def contains (ranges : Ranges) (n : Nat) : Bool :=
  ranges.any fun (first, last) => first ≤ n && n ≤ last

end Ranges

end PatternRefinement.Character
