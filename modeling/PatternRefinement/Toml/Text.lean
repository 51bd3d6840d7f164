import PatternRefinement.Text.Reader

/-!
# TOML strings and keys

## Main Definitions

* `skipBlanks`, `lineEnd?` — what may stand between tokens and at the end of a line
* `string` — a string in any of its four forms
* `key` — a key with points between its parts

## Design Notes

A line ends with a line feed, which a carriage return may precede; in a string over several
lines both are a line feed. Control characters other than the tab may stand nowhere.
-/

namespace PatternRefinement.Toml

open Text (Reader)

/-! ### Blanks and lines -/

/-- Whether a character separates tokens on a line. -/
def isBlank (c : Char) : Bool := c == ' ' || c == '\t'

/-- Whether a character may stand in a comment, and in a string if nothing there speaks against
it. -/
def isTextCharacter (c : Char) : Bool :=
  c == '\t' || (0x20 ≤ c.toNat && c.toNat != 0x7F)

/-- A text behind the blanks that it begins with. -/
def skipBlanks (text : List Char) : List Char := text.dropWhile isBlank

/-- The text behind a line end. -/
def newline? : List Char → Option (List Char)
  | '\n' :: rest => some rest
  | '\r' :: '\n' :: rest => some rest
  | _ => none

/-- The text behind a comment, if one begins here. -/
def skipComment : List Char → List Char
  | '#' :: rest => rest.dropWhile isTextCharacter
  | text => text

/-- The text behind the rest of a line, on which nothing but a comment may stand. -/
def lineEnd? (text : List Char) : Option (List Char) :=
  match skipComment (skipBlanks text) with
  | [] => some []
  | text => newline? text

/-- A text behind blanks, comments and line ends; at most `fuel` lines are skipped. -/
def skipLinesUpTo : (fuel : Nat) → List Char → List Char
  | 0, text => text
  | fuel + 1, text =>
    let text := skipBlanks text
    match newline? (skipComment text) with
    | some rest => skipLinesUpTo fuel rest
    | none => text

/-- A text behind blanks, comments and line ends. -/
def skipLines (text : List Char) : List Char := skipLinesUpTo (text.length + 1) text

/-! ### Strings -/

/-- The character with a number, unless it is a surrogate or too great. -/
def character? (n : Nat) : Option Char :=
  if h : n.isValidChar then some (Char.ofNatAux n h) else none

/-- The character that a backslash and a single character denote. -/
def shortEscape? (c : Char) : Option Char :=
  match c with
  | 'b' => some '\x08'
  | 't' => some '\t'
  | 'n' => some '\n'
  | 'f' => some '\x0C'
  | 'r' => some '\r'
  | '"' => some '"'
  | '\\' => some '\\'
  | _ => none

/-- Reads the character that `count` hexadecimal digits denote. -/
def numericEscape (count : Nat) : Reader Char := fun text =>
  (Text.hexNumber count text).bind fun found => (character? found.1).map fun c => (c, found.2)

/-- Reads the character that an escape denotes, from behind its backslash on. -/
def escape : Reader Char
  | [] => none
  | c :: rest =>
    if c = 'u' then numericEscape 4 rest
    else if c = 'U' then numericEscape 8 rest
    else (shortEscape? c).map fun denoted => (denoted, rest)

/-- An escape takes at least one character. -/
theorem length_of_escape {text rest : List Char} {c : Char} (h : escape text = some (c, rest)) :
    rest.length < text.length := by
  have numeric : ∀ {count : Nat} {text : List Char}, numericEscape count text = some (c, rest) →
      rest.length ≤ text.length := by
    intro count text h
    obtain ⟨⟨n, behind⟩, hn, hc⟩ := Option.bind_eq_some_iff.1 h
    obtain ⟨_, -, he⟩ := Option.map_eq_some_iff.1 hc
    have := Text.length_of_hexNumber hn
    simp only [Prod.mk.injEq] at he
    rw [← he.2]
    simp only at *
    omega
  unfold escape at h
  split at h
  · simp at h
  · split at h
    · have := numeric h
      simp only [List.length_cons]
      omega
    · split at h
      · have := numeric h
        simp only [List.length_cons]
        omega
      · obtain ⟨_, -, he⟩ := Option.map_eq_some_iff.1 h
        simp only [Prod.mk.injEq] at he
        simp [← he.2]

/-- The characters of a string on one line, up to its closing quote. -/
def basicBody (text : List Char) : Option (List Char × List Char) :=
  match text with
  | [] => none
  | c :: rest =>
    if c = '"' then some ([], rest)
    else if c = '\\' then
      match h : escape rest with
      | none => none
      | some (c, behind) =>
        have := length_of_escape h
        (basicBody behind).map fun (body, behind) => (c :: body, behind)
    else if isTextCharacter c then
      (basicBody rest).map fun (body, behind) => (c :: body, behind)
    else none
  termination_by text.length
  decreasing_by all_goals simp only [List.length_cons]; omega

/-- The characters of a string without escapes on one line, up to its closing apostrophe. -/
def literalBody (text : List Char) : Option (List Char × List Char) :=
  let body := text.takeWhile fun c => c != '\x27' && isTextCharacter c
  match text.dropWhile fun c => c != '\x27' && isTextCharacter c with
  | '\x27' :: behind => some (body, behind)
  | _ => none

/-- The quotes that a text begins with, at most five. -/
def quotesAtStart (quote : Char) (text : List Char) : Nat :=
  ((text.take 5).takeWhile (· == quote)).length

/-- Whether only blanks stand before the next line end. -/
def restIsBlank (text : List Char) : Bool :=
  (newline? (skipBlanks text)).isSome

/-- The characters of a string over several lines, up to its three closing quotes; one or two
more quotes before those belong to it. While `skipping`, blanks and line ends count nothing;
`escapes` says whether a backslash is special. -/
def longBody (quote : Char) (escapes skipping : Bool) (text : List Char) :
    Option (List Char × List Char) :=
  match text with
  | [] => none
  | c :: rest =>
    if skipping && (isBlank c || (newline? (c :: rest)).isSome) then
      longBody quote escapes true rest
    else if c = quote then
      let quotes := quotesAtStart quote (c :: rest)
      if 3 ≤ quotes then some (List.replicate (quotes - 3) quote, rest.drop (quotes - 1))
      else (longBody quote escapes false rest).map fun (body, behind) => (c :: body, behind)
    else if escapes && c = '\\' then
      if restIsBlank rest then longBody quote escapes true rest
      else
        match h : escape rest with
        | none => none
        | some (c, behind) =>
          have := length_of_escape h
          (longBody quote escapes false behind).map fun (body, behind) => (c :: body, behind)
    else if c = '\r' then
      if rest.head? = some '\n' then longBody quote escapes false rest else none
    else if c = '\n' || isTextCharacter c then
      (longBody quote escapes false rest).map fun (body, behind) => (c :: body, behind)
    else none
  termination_by text.length
  decreasing_by all_goals simp only [List.length_cons]; omega

/-- A text behind the line end that it may begin with. -/
def afterFirstNewline (text : List Char) : List Char := (newline? text).getD text

/-- Reads a string on one line. -/
def shortString : Reader (List Char)
  | '"' :: rest => basicBody rest
  | '\x27' :: rest => literalBody rest
  | _ => none

/-- Reads a string. -/
def string : Reader String := fun text =>
  let found :=
    match text with
    | '"' :: '"' :: '"' :: rest => longBody '"' true false (afterFirstNewline rest)
    | '\x27' :: '\x27' :: '\x27' :: rest => longBody '\x27' false false (afterFirstNewline rest)
    | text => shortString text
  found.map fun (body, behind) => (String.ofList body, behind)

/-! ### Keys -/

/-- Whether a character may stand in a key without quotes. -/
def isKeyCharacter (c : Char) : Bool := c.isAlphanum || c == '_' || c == '-'

/-- Reads one part of a key. -/
def keyPart : Reader String := fun text =>
  let bare := text.takeWhile isKeyCharacter
  if bare.isEmpty then
    (shortString text).map fun (body, behind) => (String.ofList body, behind)
  else some (String.ofList bare, text.dropWhile isKeyCharacter)

/-- How many parts a key may have, and how deep values may be nested. -/
def maxDepth : Nat := 79

/-- Reads a key with points between its parts, and the blanks around them. -/
def key : Reader (List String) := fun text =>
  (Text.separated (fun text => keyPart (skipBlanks text)) skipBlanks '.' text).filter
    fun found => found.1.length ≤ maxDepth

end PatternRefinement.Toml
