import PatternRefinement.CommandLine.Level
import PatternRefinement.Settings

/-!
# The command line

## Main Definitions

* `Job` — what the user wants to be done
* `CommandLine` — a job with the settings that the command line overrides
* `CommandLine.read` — the command line that words are
* `CommandLine.overrides` — its layer of the settings

## Design Notes

Options for all jobs stand before the command, options of a job behind it. The words behind the
command are judged first.
-/

namespace PatternRefinement

/-- What the user wants to be done. -/
inductive Job where
  /-- List the patterns of the service. -/
  | patterns
  /-- Generate an archive from a plan, with the patterns of one step in each text. -/
  | generate (steps : List String) (stepCount? projectName? : Option String)
  /-- Generate the archive of the next refinement from one selection. -/
  | generateSingle (patterns : List String) (projectName? : Option String)
  /-- Tell the number of the next refinement. -/
  | counter
  /-- Start numbering again. -/
  | resetCounter
  deriving Repr, DecidableEq

/-- A job with the settings that the command line overrides. -/
structure CommandLine where
  /-- The settings file that is asked for. -/
  config? : Option String
  serverUrl? : Option String
  downloadDirectory? : Option String
  statePath? : Option String
  job : Job
  deriving Repr, DecidableEq

/-- The project that a job is for. -/
def Job.projectName? : Job → Option String
  | .generate _ _ projectName? => projectName?
  | .generateSingle _ projectName? => projectName?
  | _ => none

namespace CommandLine

/-- An option that names a file or directory. -/
def pathOption (name : String) : OptionRule := ⟨name, false, false⟩

/-- An option with one text. -/
def textOption (name : String) : OptionRule := ⟨name, true, false⟩

/-- An option with a text, which may be given more than once. -/
def listOption (name : String) : OptionRule := ⟨name, true, true⟩

/-- The level of the options for all jobs. -/
def mainLevel : Level where
  options := [pathOption "config", textOption "server-url", pathOption "download-dir",
    pathOption "state-file"]
  commands := ["patterns", "generate", "generate-single", "counter", "reset-counter", "help"]

/-- The level of a job without options. -/
def bareLevel : Level := ⟨[], []⟩

/-- The level of the options for a plan. -/
def generateLevel : Level :=
  ⟨[listOption "step", textOption "steps", textOption "project-name"], []⟩

/-- The level of the options for one selection. -/
def generateSingleLevel : Level :=
  ⟨[listOption "pattern", textOption "project-name"], []⟩

/-- Reads the options of the last level. -/
def lastLevel (level : Level) (words : List String) : Except CommandLineError Given :=
  match level.read .none words with
  | .error e => .error e
  | .ok (given, _) => given.settle

/-- Help about a command, or about all of them. -/
def helpAbout : List String → CommandLineError
  | [] => .helpAsked
  | [command] => if mainLevel.commands.contains command then .helpAsked else .unknownCommand
  | _ => .unknownCommand

/-- The job of a command with the words behind it. -/
def readJob (command : String) (words : List String) : Except CommandLineError Job :=
  match command with
  | "patterns" => (lastLevel bareLevel words).map fun _ => .patterns
  | "counter" => (lastLevel bareLevel words).map fun _ => .counter
  | "reset-counter" => (lastLevel bareLevel words).map fun _ => .resetCounter
  | "generate" =>
    match lastLevel generateLevel words with
    | .error e => .error e
    | .ok given =>
      let steps := given.valuesOf "step"
      if steps.isEmpty then .error .missingOption
      else .ok (.generate steps (given.value? "steps") (given.value? "project-name"))
  | "generate-single" =>
    match lastLevel generateSingleLevel words with
    | .error e => .error e
    | .ok given =>
      let patterns := given.valuesOf "pattern"
      if patterns.isEmpty then .error .missingOption
      else .ok (.generateSingle patterns (given.value? "project-name"))
  | "help" => .error (helpAbout words)
  | _ => .error .unknownCommand

/-- Reads the words of a command line, without the name of the program. -/
def read (words : List String) : Except CommandLineError CommandLine :=
  match mainLevel.read .none words with
  | .error e => .error e
  | .ok (given, none) =>
    match given.settle with
    | .error e => .error e
    | .ok given => .error (if given.values.isEmpty then .nothingGiven else .missingCommand)
  | .ok (given, some (command, words)) =>
    match readJob command words with
    | .error e => .error e
    | .ok job =>
      match given.settle with
      | .error e => .error e
      | .ok given =>
        .ok { config? := given.value? "config", serverUrl? := given.value? "server-url",
              downloadDirectory? := given.value? "download-dir",
              statePath? := given.value? "state-file", job }

/-- The settings that the command line overrides. -/
def overrides (line : CommandLine) : Overrides :=
  { serverUrl? := line.serverUrl?, downloadDirectory? := line.downloadDirectory?,
    statePath? := line.statePath?, projectName? := line.job.projectName? }

end CommandLine

end PatternRefinement
