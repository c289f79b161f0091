import EditorBridge.Command.Program
import EditorBridge.Tool.Arguments

/-!
# Formatting a document

The document is saved when asked for, cleaned by one run of the tool, and its buffer is given the
output if that differs from its text. When the tool writes the file itself, the buffer is left
alone. The first failing step ends the work; every end is reported once.
-/

namespace EditorBridge.Command

/-- The tool run that cleans a document. -/
def cleaning (workspace : Workspace) (interpreter : Path) (document : Document) : Invocation where
  interpreter := interpreter
  moduleName := workspace.tool
  arguments :=
    cleanArguments (.ofDocument document) (workspace.config.cleanOptions document)
  directory := document.workingDirectory?

/-- The tool writes the file of the document itself. -/
def writesFile (workspace : Workspace) (document : Document) : Bool :=
  ((workspace.config.cleanOptions document).writtenFile? (.ofDocument document)).isSome

/-- Saves the document when that is asked for and it has a file. -/
def saveFirst (wanted : Bool) (document : Document) : Program (Except Error Unit) :=
  if wanted && document.path.isSome then .request (.save document) else .done (.ok ())

/-- Gives the buffer the output of the tool, when there is something to change. -/
def applyOutput (workspace : Workspace) (document : Document) (output : String) :
    Program (Except Error Unit) :=
  if writesFile workspace document || output == document.text then .done (.ok ())
  else .request (.replace document output)

/-- The message of a formatted document. -/
def formattedMessage (document : Document) : String :=
  "Successfully formatted \"" ++ document.displayName ++ "\""

/-- Cleans a document. -/
def clean (workspace : Workspace) (document : Document) (save : Bool) :
    Program (Except Error String) :=
  match workspace.config.interpreter? with
  | none => .done (.error .interpreterNotFound)
  | some interpreter => do
    match ← saveFirst save document with
    | .error error => return .error error
    | .ok _ =>
      match ← Program.invoke (cleaning workspace interpreter document) with
      | .error failure => return .error (.process failure)
      | .ok output =>
        match ← applyOutput workspace document output with
        | .error error => return .error error
        | .ok _ => return .ok (formattedMessage document)

/-- Cleans a document and reports how that ended. -/
def formatDocument (workspace : Workspace) (document : Document) (save : Bool) :
    Program Outcome :=
  (clean workspace document save).bind fun result => .report (.ofResult result)

/-- Formats the active document, if there is one. -/
def format (workspace : Workspace) : Program Outcome :=
  match workspace.documents.head? with
  | none => .done .skipped
  | some document => formatDocument workspace document true

/-- The hook after a document was saved: formats Python documents when the setting is on. -/
def formatSaved (workspace : Workspace) (document : Document) : Program Outcome :=
  if workspace.config.isOn .formatOnSave && document.languageId == "python" then
    formatDocument workspace document false
  else .done .skipped

end EditorBridge.Command
