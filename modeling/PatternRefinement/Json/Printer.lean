import PatternRefinement.Json.Value
import PatternRefinement.Number.Shortest

/-!
# Writing JSON

## Main Definitions

* `quoted` — a string with its escapes
* `Number.text` — the text of a number
* `Value.compact` — a value without blanks
* `Value.pretty` — a value with each item on a line of its own

## Design Notes

A quote, a backslash and the control characters below `U+0020` are escaped, and nothing else.
A double always shows that it is one, by a point or an exponent. An empty container is written
as its two brackets in either form.
-/

namespace PatternRefinement.Json

/-- Doubles are written with the fewest digits; positionally from `1e-5` on and below `1e16`,
with `.0` behind whole numbers; else with `e` and a signed exponent. -/
def doubleLayout : DecimalLayout where
  leastPositional := -5
  greatestPositional := 15
  wholeMark := ".0"
  exponentMark := "e"
  positiveMark := "+"

/-- The text of a number. -/
def Number.text : Number → String
  | .integer n => if 0 ≤ n then Text.decimal n.toNat else "-" ++ Text.decimal (-n).toNat
  | .double x => (if x.negative then "-" else "") ++ doubleLayout.write x.shortest

/-- A lower-case hexadecimal digit. -/
def hexDigit (n : Nat) : Char :=
  Nat.digitChar n

/-- A character as it stands in a string. -/
def escaped (c : Char) : List Char :=
  if c = '"' then ['\\', '"']
  else if c = '\\' then ['\\', '\\']
  else if c = '\x08' then ['\\', 'b']
  else if c = '\x0C' then ['\\', 'f']
  else if c = '\n' then ['\\', 'n']
  else if c = '\r' then ['\\', 'r']
  else if c = '\t' then ['\\', 't']
  else if c.toNat < 0x20 then
    ['\\', 'u', '0', '0', hexDigit (c.toNat / 16), hexDigit (c.toNat % 16)]
  else [c]

/-- A string with its quotes and escapes. -/
def quoted (text : String) : List Char :=
  '"' :: (text.toList.flatMap escaped ++ ['"'])

mutual

/-- A value without blanks. -/
def Value.compact : Value → List Char
  | .null => "null".toList
  | .bool true => "true".toList
  | .bool false => "false".toList
  | .number n => n.text.toList
  | .string text => quoted text
  | .array [] => ['[', ']']
  | .array (first :: rest) => '[' :: (first.compact ++ (compactItems rest ++ [']']))
  | .object [] => ['{', '}']
  | .object ((name, value) :: rest) =>
    '{' :: (quoted name ++ ':' :: (value.compact ++ (compactMembers rest ++ ['}'])))

/-- The items behind the first one, each after a comma. -/
def compactItems : List Value → List Char
  | [] => []
  | item :: rest => ',' :: (item.compact ++ compactItems rest)

/-- The members behind the first one, each after a comma. -/
def compactMembers : List (String × Value) → List Char
  | [] => []
  | (name, value) :: rest => ',' :: (quoted name ++ ':' :: (value.compact ++ compactMembers rest))

end

/-- The text of a value without blanks. -/
def Value.compactText (value : Value) : String :=
  String.ofList value.compact

/-- A new line, indented by two blanks for each container around it. -/
def newline (depth : Nat) : List Char :=
  '\n' :: List.replicate (2 * depth) ' '

mutual

/-- A value with each item on a line of its own, inside `depth` containers. -/
def Value.pretty (depth : Nat) : Value → List Char
  | .array [] => ['[', ']']
  | .array (first :: rest) =>
    '[' :: (newline (depth + 1) ++ (first.pretty (depth + 1) ++
      (prettyItems depth rest ++ (newline depth ++ [']']))))
  | .object [] => ['{', '}']
  | .object ((name, value) :: rest) =>
    '{' :: (newline (depth + 1) ++ (quoted name ++ ':' :: ' ' :: (value.pretty (depth + 1) ++
      (prettyMembers depth rest ++ (newline depth ++ ['}'])))))
  | .null => Value.compact .null
  | .bool b => Value.compact (.bool b)
  | .number n => Value.compact (.number n)
  | .string text => Value.compact (.string text)

/-- The items behind the first one of a container inside `depth` others. -/
def prettyItems (depth : Nat) : List Value → List Char
  | [] => []
  | item :: rest =>
    ',' :: (newline (depth + 1) ++ (item.pretty (depth + 1) ++ prettyItems depth rest))

/-- The members behind the first one of a container inside `depth` others. -/
def prettyMembers (depth : Nat) : List (String × Value) → List Char
  | [] => []
  | (name, value) :: rest =>
    ',' :: (newline (depth + 1) ++ (quoted name ++ ':' :: ' ' ::
      (value.pretty (depth + 1) ++ prettyMembers depth rest)))

end

/-- The text of a value with each item on a line of its own. -/
def Value.prettyText (value : Value) : String :=
  String.ofList (value.pretty 0)

end PatternRefinement.Json
