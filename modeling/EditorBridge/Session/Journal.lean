import EditorBridge.Command.Program
import EditorBridge.Text.Json

/-!
# Journals

What was asked for during one step of a session, listed by kind. Where the order of the requests
is up to a schedule, each list is put into the order of its entries' JSON lines, so that every
schedule of the same requests leaves the same journal.
-/

namespace EditorBridge

open Text

/-- The requests of a step by kind. -/
structure Journal where
  registrations : List Registration
  calls : List Call
  /-- The paths of the documents whose saving was asked for. -/
  saved : List (Option Path)
  /-- The replacements that took effect. -/
  replacements : List Replacement
  questions : List String
  notifications : List Notification
  deriving DecidableEq, Repr

/-! ### Lines -/

/-- A path that may be absent. -/
def Path.line? (path : Option Path) : String := Json.text? (path.map Path.text)

/-- The line of a registration. -/
def Registration.line : Registration → String
  | .command id => Json.object [("command", Json.text id)]
  | .scheme name => Json.object [("scheme", Json.text name)]

/-- The line of a process. -/
def Call.line (call : Call) : String :=
  Json.object [
    ("args", Json.list (call.arguments.map Json.text)),
    ("program", Json.text call.program.text),
    ("working_dir", Path.line? call.directory)]

/-- The line of a replacement. -/
def Replacement.line (replacement : Replacement) : String :=
  Json.object [
    ("content", Json.text replacement.content), ("path", Path.line? replacement.path)]

/-- The name of a severity. -/
def Level.name : Level → String
  | .info => "Info"
  | .warning => "Warning"
  | .error => "Error"

/-- The line of a notification. -/
def Notification.line (notification : Notification) : String :=
  Json.object [
    ("level", Json.text notification.level.name), ("message", Json.text notification.message)]

/-! ### Journals of traces -/

/-- Puts entries into the order of their lines. -/
def sortByLine {α : Type} (line : α → String) (entries : List α) : List α :=
  entries.mergeSort fun first second => decide (line first ≤ line second)

namespace Journal

/-- The requests of a trace, each kind in the order of the trace. -/
def ofTrace (trace : List Event) : Journal where
  registrations := trace.filterMap Event.registration?
  calls := trace.filterMap Event.call?
  saved := trace.filterMap fun event => event.saved?.map Document.path
  replacements := trace.filterMap Event.replacement?
  questions := trace.filterMap Event.question?
  notifications := trace.filterMap Event.notification?

/-- Each kind in the order of its lines. -/
def sorted (journal : Journal) : Journal where
  registrations := sortByLine Registration.line journal.registrations
  calls := sortByLine Call.line journal.calls
  saved := sortByLine Path.line? journal.saved
  replacements := sortByLine Replacement.line journal.replacements
  questions := sortByLine Json.text journal.questions
  notifications := sortByLine Notification.line journal.notifications

end Journal

end EditorBridge
