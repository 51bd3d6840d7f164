import PatternRefinement.FileTree.Access
import PatternRefinement.Text.Reader
import PatternRefinement.Text.Utf8

/-!
# The download folder of a user

A desktop keeps the folders of its user in a file, one in a line, such as
`XDG_DOWNLOAD_DIR="$HOME/Downloads"`.

## Main Definitions

* `folderOf?` — the folder that the value of a line names
* `downloadFolder?` — the download folder that the text of such a file names
* `FileTree.downloadFolder?` — the download folder that the file of a user names

## Design Notes

A folder is named from the home directory or from the root. A user who does without a folder
names the home directory itself, and such a line does not count; neither does one of any other
form.
-/

namespace PatternRefinement

/-- A line without the blanks and tabs at its ends. -/
def unpadded (text : List Char) : List Char :=
  let isPad (c : Char) : Bool := c == ' ' || c == '\t'
  ((text.dropWhile isPad).reverse.dropWhile isPad).reverse

/-- A text in which a backslash stands for the character behind it. -/
def unslashed : List Char → List Char
  | '\\' :: c :: rest => c :: unslashed rest
  | ['\\'] => []
  | c :: rest => c :: unslashed rest
  | [] => []

/-- What stands between two double quotes. -/
def quoted? : List Char → Option (List Char)
  | '"' :: rest => if rest.getLast? = some '"' then some rest.dropLast else none
  | _ => none

/-- The folder that the value of a line names, seen from a home directory. -/
def folderOf? (home : String) (value : List Char) : Option String :=
  match quoted? (unpadded value) with
  | some ('/' :: rest) => some (String.ofList (unslashed ('/' :: rest)))
  | some ('$' :: 'H' :: 'O' :: 'M' :: 'E' :: '/' :: inside) =>
    if inside.isEmpty then none
    else some (Path.join home (String.ofList (unslashed inside)))
  | _ => none

/-- The download folder that the first fitting line of a text names. -/
def downloadFolder? (home text : String) : Option String :=
  (text.toList.splitOn '\n').findSome? fun line =>
    match Text.cutAt '=' line with
    | (name, some value) =>
      if unpadded name = "XDG_DOWNLOAD_DIR".toList then folderOf? home value else none
    | _ => none

/-- The download folder that a user's file names, which stands in a directory for settings. -/
def FileTree.downloadFolder? (files : FileTree) (home directory : String) : Option String :=
  match files.read (Path.join directory "user-dirs.dirs") with
  | .ok content => PatternRefinement.downloadFolder? home (Text.repaired content)
  | .error _ => none

end PatternRefinement
