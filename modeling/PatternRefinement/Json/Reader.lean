import PatternRefinement.Json.Numeral
import PatternRefinement.Text.Reader

/-!
# Reading JSON

## Main Definitions

* `skipBlanks` — a text behind its blanks
* `stringBody` — the characters of a string up to its closing quote
* `items` — values separated by commas, up to a closing character
* `value` — the value that a text begins with
* `read?`, `readBytes?` — the value that is the whole of a text, or of bytes

## Design Notes

Containers may be nested 127 deep. A string may not hold a raw control character below
`U+0020` or an escaped surrogate without its partner. Nothing but blanks may follow the value.
-/

namespace PatternRefinement.Json

open Text (Reader)

/-- Whether a character may stand between the tokens of a JSON text. -/
def isSpace (c : Char) : Bool :=
  c == ' ' || c == '\t' || c == '\n' || c == '\r'

/-- A text behind the blanks that it begins with. -/
def skipBlanks (text : List Char) : List Char :=
  text.dropWhile isSpace

/-! ### Strings -/

/-- Whether a code unit is the first of a pair. -/
def isHighSurrogate (unit : Nat) : Bool := 0xD800 ≤ unit && unit ≤ 0xDBFF

/-- Whether a code unit is the second of a pair. -/
def isLowSurrogate (unit : Nat) : Bool := 0xDC00 ≤ unit && unit ≤ 0xDFFF

/-- The character that a pair of surrogates denotes. -/
def pairedCharacter (high low : Nat) : Char :=
  Char.ofNat (0x10000 + 1024 * (high - 0xD800) + (low - 0xDC00))

/-- The character that a backslash and a single character denote. -/
def shortEscape? (c : Char) : Option Char :=
  match c with
  | '"' => some '"'
  | '\\' => some '\\'
  | '/' => some '/'
  | 'b' => some '\x08'
  | 'f' => some '\x0C'
  | 'n' => some '\n'
  | 'r' => some '\r'
  | 't' => some '\t'
  | _ => none

/-- Reads the escape of the second of a pair of surrogates, from its backslash on. -/
def lowSurrogate : Reader Nat
  | '\\' :: 'u' :: rest => (Text.hexNumber 4 rest).filter fun found => isLowSurrogate found.1
  | _ => none

/-- Reads the four digits that name a character, and a second escape if it takes two. -/
def unicodeEscape : Reader Char := fun text =>
  match Text.hexNumber 4 text with
  | none => none
  | some (unit, rest) =>
    -- The second of a pair has no meaning of its own.
    if isLowSurrogate unit then none
    else if isHighSurrogate unit then
      (lowSurrogate rest).map fun found => (pairedCharacter unit found.1, found.2)
    else some (Char.ofNat unit, rest)

/-- Reads the character that an escape denotes, from behind its backslash on. -/
def escape : Reader Char
  | 'u' :: rest => unicodeEscape rest
  | c :: rest => (shortEscape? c).map fun denoted => (denoted, rest)
  | [] => none

theorem length_of_lowSurrogate {text rest : List Char} {n : Nat}
    (h : lowSurrogate text = some (n, rest)) : rest.length < text.length := by
  unfold lowSurrogate at h
  split at h
  · have := Text.length_of_hexNumber (Option.filter_eq_some_iff.1 h).1
    simp only [List.length_cons]
    omega
  · simp at h

theorem length_of_unicodeEscape {text rest : List Char} {c : Char}
    (h : unicodeEscape text = some (c, rest)) : rest.length < text.length := by
  unfold unicodeEscape at h
  split at h
  · simp at h
  · rename_i unit behind hu
    have hlt := Text.length_of_hexNumber hu
    split at h
    · simp at h
    · split at h
      · obtain ⟨⟨low, last⟩, hl, he⟩ := Option.map_eq_some_iff.1 h
        have := length_of_lowSurrogate hl
        simp only [Prod.mk.injEq] at he
        simp only [← he.2]
        omega
      · simp only [Option.some.injEq, Prod.mk.injEq] at h
        simp only [← h.2]
        omega

/-- An escape takes at least one character. -/
theorem length_of_escape {text rest : List Char} {c : Char} (h : escape text = some (c, rest)) :
    rest.length < text.length := by
  unfold escape at h
  split at h
  · have := length_of_unicodeEscape h
    simp only [List.length_cons]
    omega
  · obtain ⟨_, -, he⟩ := Option.map_eq_some_iff.1 h
    simp only [Prod.mk.injEq] at he
    simp [← he.2]
  · simp at h

/-- The characters of a string up to its closing quote, and the text behind that. -/
def stringBody (text : List Char) : Option (List Char × List Char) :=
  match text with
  | [] => none
  | c :: rest =>
    if c = '"' then some ([], rest)
    else if c = '\\' then
      match h : escape rest with
      | none => none
      | some (c, behind) =>
        have := length_of_escape h
        (stringBody behind).map fun (body, behind) => (c :: body, behind)
    else if c.toNat < 0x20 then none
    else (stringBody rest).map fun (body, behind) => (c :: body, behind)
  termination_by text.length
  decreasing_by all_goals simp only [List.length_cons]; omega

/-- Reads a string. -/
def string : Reader String := fun text =>
  match skipBlanks text with
  | '"' :: rest => (stringBody rest).map fun (body, behind) => (String.ofList body, behind)
  | _ => none

/-! ### Containers -/

/-- Reads one item or more, separated by commas, up to and with the closing character. -/
def items {α : Type} (item : Reader α) (close : Char) (text : List Char) :
    Option (List α × List Char) :=
  match item text with
  | none => none
  | some (first, rest) =>
    match skipBlanks rest with
    | [] => none
    | c :: behind =>
      if c = close then some ([first], behind)
      else if c = ',' then
        if behind.length < text.length then
          (items item close behind).map fun (others, behind) => (first :: others, behind)
        else none
      else none
  termination_by text.length

/-- Reads items separated by commas, up to and with the closing character. -/
def itemsOrNone {α : Type} (item : Reader α) (close : Char) (text : List Char) :
    Option (List α × List Char) :=
  match skipBlanks text with
  | c :: behind => if c = close then some ([], behind) else items item close (c :: behind)
  | [] => none

/-- Reads a name, a colon and a value. -/
def member {α : Type} (value : Reader α) : Reader (String × α) := fun text =>
  match string text with
  | none => none
  | some (name, rest) =>
    match skipBlanks rest with
    | ':' :: rest => (value rest).map fun (value, rest) => ((name, value), rest)
    | _ => none

/-! ### Values -/

/-- Reads the rest of a word, which stands for a value. -/
def word (letters : String) (value : Value) : Reader Value := fun text =>
  if letters.toList.isPrefixOf text then some (value, text.drop letters.length) else none

/-- Reads a number. -/
def number : Reader Value := fun text =>
  match Numeral.read? text with
  | none => none
  | some (numeral, rest) => numeral.value?.map fun number => (.number number, rest)

/-- Reads the value that a text begins with, its containers nested at most `depth` deep. -/
def value : (depth : Nat) → Reader Value
  | depth, text =>
    match skipBlanks text with
    | [] => none
    | 'n' :: rest => word "ull" .null rest
    | 't' :: rest => word "rue" (.bool true) rest
    | 'f' :: rest => word "alse" (.bool false) rest
    | '"' :: rest =>
      (stringBody rest).map fun (body, behind) => (.string (String.ofList body), behind)
    | '[' :: rest =>
      match depth with
      | 0 => none
      | depth + 1 =>
        (itemsOrNone (value depth) ']' rest).map fun (items, behind) => (.array items, behind)
    | '{' :: rest =>
      match depth with
      | 0 => none
      | depth + 1 =>
        (itemsOrNone (member (value depth)) '}' rest).map
          fun (members, behind) => (.object members, behind)
    | c :: rest => number (c :: rest)

/-- How deep containers may be nested. -/
def maxDepth : Nat := 127

/-- The value that is the whole of a text. -/
def read? (text : String) : Option Value :=
  match value maxDepth text.toList with
  | some (value, rest) => if (skipBlanks rest).isEmpty then some value else none
  | none => none

/-- The value that is the whole of some bytes, which have to be well-formed text. -/
def readBytes? (bytes : ByteArray) : Option Value :=
  (String.fromUTF8? bytes).bind read?

end PatternRefinement.Json
