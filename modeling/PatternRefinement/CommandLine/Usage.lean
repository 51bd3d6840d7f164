import PatternRefinement.CommandLine.Reader

/-!
# How the program is used

## Main Definitions

* `CommandLine.usage` — the commands and their options
* `CommandLineError.message` — what the user is told about a command line that leads to nothing
* `CommandLineError.exitCode` — what the program ends with then
-/

namespace PatternRefinement

/-- The commands and their options. -/
def CommandLine.usage : String :=
  String.join <| List.map (· ++ "\n")
    ["Compose Event-B refinements from reusable patterns",
     "",
     "Usage: composer [OPTIONS] <COMMAND>",
     "",
     "Commands:",
     "  patterns         List the patterns offered by the server",
     "  generate         Generate one archive from an ordered sequence of refinement steps",
     "    --step <PATTERNS>      Comma-separated patterns of one step; repeat once per step",
     "    --steps <N>            Number of refinements; one per step unless given",
     "    --project-name <NAME>",
     "  generate-single  Generate the next refinement from a single selection",
     "    --pattern <PATTERNS>   Comma-separated patterns; may be repeated",
     "    --project-name <NAME>",
     "  counter          Show the number of the next single refinement",
     "  reset-counter    Start the numbers of single refinements at 1 again",
     "",
     "Options:",
     "  --config <FILE>          Settings file; composer.toml unless given",
     "  --server-url <URL>",
     "  --download-dir <DIRECTORY>",
     "  --state-file <FILE>",
     "  -h, --help"]

namespace CommandLineError

/-- What is wrong with a command line. -/
def cause? : CommandLineError → Option String
  | .helpAsked => none
  | .nothingGiven => none
  | .missingCommand => some "a command is required"
  | .unknownCommand => some "there is no such command"
  | .missingOption => some "the command needs at least one selection"
  | .unknownWord => some "unexpected argument"
  | .missingValue => some "an option needs a value"
  | .unwantedValue => some "the option takes no value"
  | .repeatedOption => some "an option is given more than once"

/-- What the user is told about a command line that leads to nothing. -/
def message (error : CommandLineError) : String :=
  match error.cause? with
  | some cause => "error: " ++ cause ++ "\n\n" ++ CommandLine.usage
  | none => CommandLine.usage

/-- What the program ends with: asking for help is no fault. -/
def exitCode : CommandLineError → Nat
  | .helpAsked => 0
  | _ => 2

end CommandLineError

end PatternRefinement
