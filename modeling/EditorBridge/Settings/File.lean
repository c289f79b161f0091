import EditorBridge.Machine.Basic
import EditorBridge.Settings.Reader

/-!
# Settings files

Settings come from a file that was named, or from the usual file of a directory when there is one.
A file that was named has to exist; without any file the defaults hold.
-/

namespace EditorBridge.Settings

/-- The name of the usual settings file. -/
def fileName : String := ".docbridge.toml"

/-- The file that settings are read from: the named one, or the usual one where it exists. -/
def file? (machine : Machine) (named : Option Path) (directory : Path) : Option Path :=
  match named with
  | some path => some path
  | none =>
    let usual := directory.entry fileName
    if machine.isFile usual then some usual else none

/-- Loads the settings. -/
def load (machine : Machine) (named : Option Path) (directory : Path) : Except Error Settings :=
  match file? machine named directory with
  | none => .ok {}
  | some path =>
    match machine.readText path with
    | .error reason => .error (.io reason)
    | .ok content => parse content

end EditorBridge.Settings
