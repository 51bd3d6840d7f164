import PatternRefinement.Settings.UserFolder
import PatternRefinement.Toml.Document

/-!
# Settings

Four settings, each with a default, which a settings file, the environment and the command line
override in this order.

## Main Definitions

* `Settings` — the settings in effect
* `Overrides` — the settings that one layer sets
* `Environment` — the variables that the program is started with
* `Overrides.ofFile?`, `Overrides.ofEnvironment` — the layers below the command line
* `Settings.load` — the settings without those of the command line

## Design Notes

A layer that sets a setting to the empty text sets it. A settings file has to be there if it is
asked for by name; the usual one may be missing. A file that is there has to be well formed.
-/

namespace PatternRefinement

/-- The settings in effect. -/
structure Settings where
  serverUrl : String
  downloadDirectory : String
  statePath : String
  projectName? : Option String
  deriving Repr, DecidableEq

/-- The settings that one layer sets. -/
structure Overrides where
  serverUrl? : Option String
  downloadDirectory? : Option String
  statePath? : Option String
  projectName? : Option String
  deriving Repr, DecidableEq

/-- The settings with those that a layer sets replaced. -/
def Settings.override (settings : Settings) (layer : Overrides) : Settings :=
  { serverUrl := layer.serverUrl?.getD settings.serverUrl
    downloadDirectory := layer.downloadDirectory?.getD settings.downloadDirectory
    statePath := layer.statePath?.getD settings.statePath
    projectName? := layer.projectName?.orElse fun _ => settings.projectName? }

/-- The variables that the program is started with, and the home directory that the account
has. -/
structure Environment where
  entries : List (String × String)
  accountHome? : Option String
  deriving Repr, DecidableEq

namespace Environment

/-- The value of a variable. -/
def get? (environment : Environment) (name : String) : Option String :=
  environment.entries.lookup name

/-- The home directory: the variable counts unless it is empty. -/
def home? (environment : Environment) : Option String :=
  ((environment.get? "HOME").filter (!·.isEmpty)).orElse fun _ => environment.accountHome?

/-- The directory for the data of programs: the variable counts if it is an absolute path. -/
def dataDirectory? (environment : Environment) : Option String :=
  ((environment.get? "XDG_DATA_HOME").filter Path.isAbsolute).orElse fun _ =>
    environment.home?.map (Path.join · ".local/share")

/-- The directory for the settings of programs: the variable counts if it is an absolute
path. -/
def settingsDirectory? (environment : Environment) : Option String :=
  ((environment.get? "XDG_CONFIG_HOME").filter Path.isAbsolute).orElse fun _ =>
    environment.home?.map (Path.join · ".config")

/-- The download folder of the user. -/
def downloadFolder? (environment : Environment) (files : FileTree) : Option String :=
  match environment.home?, environment.settingsDirectory? with
  | some home, some directory => files.downloadFolder? home directory
  | _, _ => none

end Environment

/-- Why there are no settings. -/
inductive SettingsFailure where
  | unreadable (path : String)
  | malformed (path : String)
  deriving Repr, DecidableEq

/-- What the user is told about missing settings. -/
def SettingsFailure.message : SettingsFailure → String
  | .unreadable path => "failed to read config file '" ++ path ++ "'"
  | .malformed path => "failed to parse config file '" ++ path ++ "'"

namespace Overrides

/-- A setting in a settings file: it may be missing, but has to be a string. -/
def setting? (name : String) (members : Toml.Members) : Option (Option String) :=
  match members.lookup name with
  | none => some none
  | some (.string text) => some (some text)
  | some _ => none

/-- The settings in the members of a table; others are ignored. -/
def ofMembers? (members : Toml.Members) : Option Overrides :=
  match setting? "server_url" members, setting? "download_dir" members,
      setting? "state_path" members, setting? "project_name" members with
  | some serverUrl?, some downloadDirectory?, some statePath?, some projectName? =>
    some { serverUrl?, downloadDirectory?, statePath?, projectName? }
  | _, _, _, _ => none

/-- The settings in the text of a settings file. -/
def ofFile? (text : String) : Option Overrides :=
  (Toml.read? text).bind ofMembers?

/-- The settings in the environment. -/
def ofEnvironment (environment : Environment) : Overrides :=
  { serverUrl? := (environment.get? "APP__SERVER_URL").orElse fun _ =>
      environment.get? "COMPOSER_SERVER_URL"
    downloadDirectory? := environment.get? "COMPOSER_DOWNLOAD_DIR"
    statePath? := environment.get? "COMPOSER_STATE_PATH"
    projectName? := environment.get? "COMPOSER_PROJECT_NAME" }

end Overrides

namespace Settings

/-- The settings that nothing overrides. -/
def default (files : FileTree) (environment : Environment) : Settings :=
  { serverUrl := "http://127.0.0.1:8080"
    downloadDirectory := (environment.downloadFolder? files).getD "."
    statePath := Path.join (Path.join (environment.dataDirectory?.getD ".") "eventb_composer")
      "state.json"
    projectName? := none }

/-- The name of the usual settings file. -/
def usualFile : String := "composer.toml"

/-- The settings file that counts, with its path: the one that was asked for, which has to be
readable, or the usual one if it is. -/
def fileText (files : FileTree) (asked? : Option String) :
    Except SettingsFailure (Option (String × String)) :=
  match asked? with
  | none => .ok ((files.readText? usualFile).map fun text => (usualFile, text))
  | some path =>
    match files.readText? path with
    | some text => .ok (some (path, text))
    | none => .error (.unreadable path)

/-- The settings from defaults, settings file and environment. -/
def load (files : FileTree) (environment : Environment) (asked? : Option String) :
    Except SettingsFailure Settings :=
  match fileText files asked? with
  | .error e => .error e
  | .ok none => .ok ((default files environment).override (.ofEnvironment environment))
  | .ok (some (path, text)) =>
    match Overrides.ofFile? text with
    | none => .error (.malformed path)
    | some layer =>
      .ok (((default files environment).override layer).override (.ofEnvironment environment))

end Settings

end PatternRefinement
