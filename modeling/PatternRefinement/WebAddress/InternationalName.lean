import PatternRefinement.Character.Composition
import PatternRefinement.Character.Direction
import PatternRefinement.Character.Joining
import PatternRefinement.Character.NameMapping
import PatternRefinement.WebAddress.Punycode

/-!
# International names

The name of a host may hold characters of any script. It is spelled in one way, checked, and written
in ASCII.

## Main Definitions

* `spelledName?` — a name in the one spelling
* `readLabel?` — a label of a spelled name in its characters and in ASCII
* `joinersFit`, `directionsFit` — what labels of some scripts have to keep to
* `asciiName?` — a name in ASCII

## Design Notes

A label in ASCII that begins with a mark of its own stands for one in other characters, and has to
be what that one is written as. Directions are only checked in names that hold a character from
right to left, but then in every label. Nothing is said about the lengths of labels that are in
ASCII already.
-/

namespace PatternRefinement

/-- Whether a name may not hold an ASCII character. -/
def isForbiddenInName (c : Char) : Bool :=
  c.toNat ≤ 0x20 || c.toNat == 0x7F || "%#/:<>?@[\\]^|".toList.contains c

/-- Whether a character is in ASCII. -/
def isAscii (c : Char) : Bool := c.toNat < 0x80

/-- A name in the one spelling. -/
def spelledName? (name : List Char) : Option (List Char) :=
  if name.all isAscii then some (name.map Char.toLower)
  else (name.mapM Character.spelled?).map fun parts => Character.normalized parts.flatten

/-! ### Labels -/

/-- The mark of a label that stands for one in other characters. -/
def foreignMark : List Char := "xn--".toList

/-- The length from which on labels in other characters are not written in ASCII. -/
def maxForeignLength : Nat := 1000

/-- The length from which on labels in ASCII are not read. -/
def maxEncodedLength : Nat := 2000

/-- Whether a character that joins or separates its neighbours may stand between the texts before
it, which comes last character first, and behind it. -/
def joinerFits (c : Char) (before behind : List Char) : Bool :=
  let behindVirama := before.head?.any Character.isVirama
  if Character.isJoiner c then behindVirama
  else if Character.isNonJoiner c then
    behindVirama ||
      ((before.dropWhile Character.isTransparent).head?.any Character.joinsBehind &&
        (behind.dropWhile Character.isTransparent).head?.any Character.joinsBefore)
  else true

/-- Whether all such characters of a label may stand where they do; `before` is what comes before
it, last character first. -/
def joinersFit (before : List Char) : List Char → Bool
  | [] => true
  | c :: rest => joinerFits c before rest && joinersFit (c :: before) rest

/-- A label in its characters and in ASCII. -/
structure NameLabel where
  characters : List Char
  ascii : List Char
  deriving Repr, DecidableEq

/-- Whether a label of any characters may stand in a name. -/
def isFitLabel (characters : List Char) : Bool :=
  !characters.head?.any Character.isMark && joinersFit [] characters

/-- Reads the label that an ASCII label stands for, from behind its mark. -/
def readForeign? (encoded : List Char) : Option (List Char) :=
  if encoded.isEmpty || encoded.getLast? = some '-' || maxEncodedLength < encoded.length then none
  else
    (Punycode.decode? encoded).filter fun characters =>
      spelledName? characters == some characters && isFitLabel characters

/-- Reads a label of a spelled name. -/
def readLabel? (label : List Char) : Option NameLabel :=
  if foreignMark.isPrefixOf label then
    if label.all isAscii then
      (readForeign? (label.drop foreignMark.length)).map fun characters =>
        { characters, ascii := label }
    else none
  else if label.all isAscii then some { characters := label, ascii := label }
  else if isFitLabel label && label.length ≤ maxForeignLength then
    some { characters := label, ascii := foreignMark ++ Punycode.encode label }
  else none

/-! ### Directions -/

open Character (Direction direction)

/-- The directions of a label without the marks at its end. -/
def directionsOf (label : List Char) : List Direction :=
  ((label.map direction).reverse.dropWhile (· == .mark)).reverse

/-- Whether a label from left to right may hold characters of these directions. -/
def leftToRightFits (directions : List Direction) : Bool :=
  directions.all (fun d => d != .rightToLeft && d != .arabicNumber) &&
    directions.getLast?.any fun d => d == .leftToRight || d == .europeanNumber

/-- Whether a label from right to left may hold characters of these directions: numbers are of one
kind. -/
def rightToLeftFits (directions : List Direction) : Bool :=
  directions.all (· != .leftToRight) &&
    !(directions.contains .europeanNumber && directions.contains .arabicNumber) &&
    directions.getLast?.any fun d =>
      d == .rightToLeft || d == .europeanNumber || d == .arabicNumber

/-- Whether the directions of a label go together. -/
def directionsFit (label : List Char) : Bool :=
  match (label.map direction).head? with
  | none => true
  | some .leftToRight => leftToRightFits (directionsOf label)
  | some .rightToLeft => rightToLeftFits (directionsOf label)
  | some _ => false

/-- Whether a label makes the directions of its name count. -/
def goesLeft (label : List Char) : Bool :=
  label.any fun c => direction c == .rightToLeft || direction c == .arabicNumber

/-! ### Names -/

/-- A name in ASCII and lower case, if it may be the name of a host. -/
def asciiName? (name : List Char) : Option (List Char) :=
  match spelledName? name with
  | none => none
  | some spelled =>
    if spelled.any isForbiddenInName then none
    else
      match (spelled.splitOn '.').mapM readLabel? with
      | none => none
      | some labels =>
        let directed := labels.any (goesLeft ·.characters)
        if directed && !labels.all (directionsFit ·.characters) then none
        else some (['.'].intercalate (labels.map (·.ascii)))

end PatternRefinement
