import CommandUrl.Event
import CommandUrl.File.Tree
import CommandUrl.Json.Merge
import CommandUrl.Json.Printer
import CommandUrl.Json.Reader
import CommandUrl.Records

/-!
# The settings file

Settings are stored as a JSON text. A file that is missing stands for the
defaults, and so does one that holds something else, which is logged; only a
file that cannot be read at all is a failure. A change is merged into what is
stored, read back as settings, and only then written, so a change that does not
make settings leaves the file as it was.
-/

namespace CommandUrl.SettingsFile

/-- What a settings file holds. -/
inductive Content where
  | missing
  | malformed
  | stored (settings : Settings)
  deriving Repr, DecidableEq

/-- The settings that a content stands for. -/
def Content.effective : Content → Settings
  | missing | malformed => .default
  | stored settings => settings

/-- What is logged about the content of a file. -/
def Content.events (path : String) : Content → List Event
  | malformed => [.settingsUnreadable path]
  | missing | stored _ => []

/-- The settings that a text gives, if it gives any. -/
def decode? (text : List Char) : Option Settings :=
  (Json.parse? text).bind fun value => (Settings.ofJson value).toOption

/-- The text that settings are stored as. -/
def encode (settings : Settings) : List Char :=
  settings.toJson.pretty

/-- Reads a settings file. -/
def read (tree : FileTree) (path : String) : Except FileError Content :=
  match tree.readText path with
  | .ok text =>
    match decode? text with
    | some settings => .ok (.stored settings)
    | none => .ok .malformed
  | .error .notFound => .ok .missing
  | .error error => .error error

/-- The settings in force by a file, and what is logged in finding out. -/
def load (tree : FileTree) (path : String) : Except Failure Settings × List Event :=
  match read tree path with
  | .ok content => (.ok content.effective, content.events path)
  | .error error => (.error (.io error.message), [])

/-- Stores settings. -/
def save (tree : FileTree) (path : String) (settings : Settings) :
    Except Failure Unit × FileTree :=
  match tree.store path (Utf8.encode (encode settings)) with
  | (.ok (), tree) => (.ok (), tree)
  | (.error error, tree) => (.error (.io error.message), tree)

/-- The settings after a change. -/
def amend (settings : Settings) (change : Json) : Except Failure Settings :=
  match Settings.ofJson (settings.toJson.merge change) with
  | .ok settings => .ok settings
  | .error mismatch => .error (.internal mismatch.message)

/-- What became of a change to a settings file. -/
structure Update where
  result : Except Failure Settings
  tree : FileTree
  events : List Event

/-- Changes the settings in a file. -/
def update (tree : FileTree) (path : String) (change : Json) : Update :=
  let (loaded, events) := load tree path
  match loaded.bind (amend · change) with
  | .error failure => { result := .error failure, tree, events }
  | .ok settings =>
    let (saved, tree) := save tree path settings
    { result := saved.map fun _ => settings, tree, events }

end CommandUrl.SettingsFile
