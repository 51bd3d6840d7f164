/-!
# Blank characters and trimming

## Main Definitions

* `isBlank` — the characters that carry the Unicode property White_Space
* `trim` — a text without the blanks at its two ends
* `trimmed` — the same on strings

## Design Notes

Names, header entries and numbers are all trimmed by one notion of blank, that of the
Unicode property. It is wider than the six ASCII blanks and holds neither the zero width
space `U+200B` nor the byte order mark `U+FEFF`.
-/

namespace PatternRefinement.Text

/-- A character is blank when it has the Unicode property White_Space. -/
def isBlank (c : Char) : Bool :=
  let n := c.toNat
  (0x09 ≤ n && n ≤ 0x0D) || n == 0x20 || n == 0x85 || n == 0xA0 || n == 0x1680
    || (0x2000 ≤ n && n ≤ 0x200A) || n == 0x2028 || n == 0x2029 || n == 0x202F
    || n == 0x205F || n == 0x3000

/-- Removes the blanks that a text begins with. -/
def trimStart (text : List Char) : List Char :=
  text.dropWhile isBlank

/-- Removes the blanks that a text ends with. -/
def trimEnd (text : List Char) : List Char :=
  (text.reverse.dropWhile isBlank).reverse

/-- Removes the blanks at both ends of a text. -/
def trim (text : List Char) : List Char :=
  trimEnd (trimStart text)

/-- Removes the blanks at both ends of a string. -/
def trimmed (text : String) : String :=
  String.ofList (trim text.toList)

end PatternRefinement.Text
