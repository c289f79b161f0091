import EditorBridge.Document
import EditorBridge.Error
import EditorBridge.Machine.Basic
import EditorBridge.Settings

/-!
# Buffers of the terminal

A terminal has files for buffers, and the standard input as an untitled one. Every argument is
opened on its own: it becomes a document, or is kept aside with the reason why it could not be
read.
-/

namespace EditorBridge

/-- An argument that could not be opened. -/
structure Unreadable where
  path : Path
  error : Error
  deriving DecidableEq, Repr

/-- The documents on a terminal, and how it is set up. -/
structure Terminal where
  settings : Settings
  documents : List Document
  unreadable : List Unreadable
  /-- Questions are answered with yes. -/
  assumeYes : Bool

namespace Terminal

/-- The argument that stands for the standard input. -/
def inputMarker : Path := ⟨"-"⟩

/-- The language of a file, by the extension of its name. -/
def languageOf (path : Path) : String :=
  match path.extension? with
  | some "py" | some "pyi" | some "pyw" => "python"
  | some "md" => "markdown"
  | _ => "plaintext"

/-- The document of the standard input. -/
def untitled (text : String) : Document := ⟨none, text, "python", none⟩

/-- The document of a file. Its path has all links followed; its language is that of the name it
was opened by. -/
def openFile (machine : Machine) (path : Path) : Except String Document := do
  let text ← machine.readText path
  let canonical ← machine.canonical path
  return ⟨some canonical, text, languageOf path, none⟩

/-- Opens an argument. -/
def openArgument (machine : Machine) (path : Path) : Except String Document × Machine :=
  if path = inputMarker then
    let (text, machine) := machine.readInput
    (text.map untitled, machine)
  else (openFile machine path, machine)

/-- What became of an argument. -/
abbrev Opened := Document ⊕ Unreadable

/-- Opens arguments from first to last. -/
def openEach (machine : Machine) : List Path → List Opened × Machine
  | [] => ([], machine)
  | path :: rest =>
    let (result, machine) := openArgument machine path
    let opened : Opened := match result with
      | .ok document => .inl document
      | .error reason => .inr ⟨path, .io reason⟩
    let (others, machine) := openEach machine rest
    (opened :: others, machine)

/-- Opens a terminal with buffers for the arguments. -/
def ofArguments (settings : Settings) (paths : List Path) (assumeYes : Bool) (machine : Machine) :
    Terminal × Machine :=
  let (opened, machine) := openEach machine paths
  ({ settings := settings
     documents := opened.filterMap Sum.getLeft?
     unreadable := opened.filterMap Sum.getRight?
     assumeYes := assumeYes },
    machine)

/-- The standard output is kept for the content of an untitled buffer. -/
def isOutputReserved (terminal : Terminal) : Bool := terminal.documents.any (·.path.isNone)

end Terminal

end EditorBridge
