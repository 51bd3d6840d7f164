import PatternRefinement.Text.Reader

/-!
# Options of a command line

A command line is read level by level. A level admits some options, each with a value, and it may
end with the name of a command, whose own level follows.

## Main Definitions

* `CommandLineError` — why a command line leads to nothing but a text about its use
* `Word` — what a word of a command line looks like
* `OptionRule`, `Level` — what a level admits
* `Given` — the options that were given so far
* `Level.read` — the options of a level, up to the name of a command or the last word

## Design Notes

A value in a word of its own is judged late: when the next option comes, or at the end of all
levels. So of two faults the one in the later word can be the one that counts. A value that is
attached to its option by an equals sign is judged at once. A word that looks like an option is
never the value of the option before it.
-/

namespace PatternRefinement

/-- Why a command line leads to nothing but a text about its use. -/
inductive CommandLineError where
  /-- Help was asked for. -/
  | helpAsked
  /-- There is neither a command nor an option. -/
  | nothingGiven
  /-- There are options but no command. -/
  | missingCommand
  /-- There is no command of this name. -/
  | unknownCommand
  /-- An option that the command needs is missing. -/
  | missingOption
  /-- A word is no option of its level, and none of its values. -/
  | unknownWord
  /-- An option has no value, or an empty one that is to be a path. -/
  | missingValue
  /-- A value is attached to an option that takes none. -/
  | unwantedValue
  /-- An option that may be given once is given again. -/
  | repeatedOption
  deriving Repr, DecidableEq

/-- What a word of a command line looks like. -/
inductive Word where
  | plain (text : String)
  /-- Two hyphens: no word behind it is an option. -/
  | endOfOptions
  /-- A name behind two hyphens, with the value behind its first equals sign. -/
  | long (name : String) (value? : Option String)
  /-- Letters behind one hyphen. -/
  | letters (first : Char) (others : List Char)
  deriving Repr, DecidableEq

/-- What a word of a command line looks like. One hyphen alone is plain. -/
def Word.ofText (text : String) : Word :=
  match text.toList with
  | ['-', '-'] => .endOfOptions
  | '-' :: '-' :: rest =>
    let (name, value?) := Text.cutAt '=' rest
    .long (String.ofList name) (value?.map String.ofList)
  | '-' :: first :: others => .letters first others
  | _ => .plain text

/-- An option with a value. -/
structure OptionRule where
  name : String
  /-- Whether the value may be empty. -/
  admitsEmpty : Bool
  /-- Whether the option may be given more than once. -/
  repeatable : Bool
  deriving Repr, DecidableEq

/-- What a level of a command line admits. -/
structure Level where
  options : List OptionRule
  /-- The names that end the level. -/
  commands : List String
  deriving Repr, DecidableEq

/-! ### Options that were given -/

/-- The options that were given so far. -/
structure Given where
  /-- The values that have been judged, in their order, with the names of their options. -/
  values : List (String × String)
  /-- The last option, unless it has been judged, with its value if that has come. -/
  open? : Option (OptionRule × Option String)
  deriving Repr, DecidableEq

namespace Given

/-- No option. -/
def none : Given := ⟨[], .none⟩

/-- Whether the last option waits for its value. -/
def awaitsValue (given : Given) : Bool :=
  match given.open? with
  | some (_, .none) => true
  | _ => false

/-- Judges the value of an option; the option that is open stays open. -/
def judge (given : Given) (rule : OptionRule) (value? : Option String) :
    Except CommandLineError Given :=
  match value? with
  | .none => .error .missingValue
  | some value =>
    if !rule.repeatable && given.values.any (·.1 == rule.name) then .error .repeatedOption
    else if !rule.admitsEmpty && value.isEmpty then .error .missingValue
    else .ok { given with values := given.values ++ [(rule.name, value)] }

/-- Judges the value of the option that is open. -/
def settle (given : Given) : Except CommandLineError Given :=
  match given.open? with
  | .none => .ok given
  | some (rule, value?) => { given with open? := .none }.judge rule value?

/-- Adds an option, whose value is attached to it or still to come. -/
def add (given : Given) (rule : OptionRule) (attached? : Option String) :
    Except CommandLineError Given :=
  match given.settle with
  | .error e => .error e
  | .ok given =>
    match attached? with
    | some value => given.judge rule (some value)
    | .none => .ok { given with open? := some (rule, .none) }

/-- Takes a word as the value that the last option waits for. -/
def supply (given : Given) (value : String) : Given :=
  { given with open? := given.open?.map fun (rule, _) => (rule, some value) }

/-- The values of an option, in their order. -/
def valuesOf (given : Given) (name : String) : List String :=
  (given.values.filter (·.1 == name)).map (·.2)

/-- The value of an option that is given at most once. -/
def value? (given : Given) (name : String) : Option String :=
  (given.valuesOf name).head?

end Given

/-! ### Levels -/

namespace Level

/-- The option of a name. -/
def option? (level : Level) (name : String) : Option OptionRule :=
  level.options.find? (·.name == name)

/-- What a word that fits nowhere comes to: behind the end of options the name of a command is
no command. -/
def stray (level : Level) (behindOptions : Bool) (word : String) : CommandLineError :=
  if level.commands.isEmpty || (behindOptions && level.commands.contains word) then .unknownWord
  else .unknownCommand

/-- Help is given if nothing is wrong with the options before. -/
def help {α : Type} (given : Given) : Except CommandLineError α :=
  match given.settle with
  | .error e => .error e
  | .ok _ => .error .helpAsked

/-- Reads the options of a level. The result is what was given, with its last value still to be
judged, and the command with the words behind it, if the level ends with one. -/
def read (level : Level) (given : Given) :
    List String → Except CommandLineError (Given × Option (String × List String))
  | [] => .ok (given, .none)
  | word :: rest =>
    -- The name of a command is a value like any other where a value is awaited.
    if !given.awaitsValue && level.commands.contains word then .ok (given, some (word, rest))
    else
      match Word.ofText word with
      | .endOfOptions =>
        match rest with
        | [] => .ok (given, .none)
        -- No level takes words that are neither options nor commands.
        | next :: _ => .error (level.stray true next)
      | .long "help" .none => help given
      | .long "help" (some _) => .error .unwantedValue
      | .long name attached? =>
        match level.option? name with
        | .none => .error .unknownWord
        | some rule =>
          match given.add rule attached? with
          | .error e => .error e
          | .ok given => level.read given rest
      | .letters 'h' _ => help given
      | .letters _ _ => .error .unknownWord
      | .plain text =>
        if given.awaitsValue then level.read (given.supply text) rest
        else .error (level.stray false text)

end Level

end PatternRefinement
