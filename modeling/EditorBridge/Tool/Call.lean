import EditorBridge.Error
import EditorBridge.Path
import EditorBridge.Decimal.Digits
import EditorBridge.Text.Utf8

/-!
# Running a module of the interpreter

The tool is a module of an interpreter: `<interpreter> -m <module> <arguments>`. What the process
prints is decoded; a failure carries the decoded error stream, or says how the process ended when
that stream is empty.
-/

namespace EditorBridge

/-- A process to start. -/
structure Call where
  program : Path
  arguments : List String
  directory : Option Path
  deriving DecidableEq, Repr

/-- What a finished process leaves behind. A process ended by a signal has no exit code. -/
structure Output where
  success : Bool
  exitCode : Option Int
  stdout : List UInt8
  stderr : List UInt8
  deriving DecidableEq, Repr

/-- A run of a module of the interpreter. -/
structure Invocation where
  interpreter : Path
  moduleName : String
  arguments : List String
  directory : Option Path
  deriving DecidableEq, Repr

namespace Invocation

/-- All arguments handed to the interpreter. -/
def argv (invocation : Invocation) : List String :=
  "-m" :: invocation.moduleName :: invocation.arguments

/-- The process of the run. -/
def call (invocation : Invocation) : Call :=
  ⟨invocation.interpreter, invocation.argv, invocation.directory⟩

/-- The command line for people to read. -/
def display (invocation : Invocation) : String :=
  " ".intercalate (invocation.interpreter.text :: invocation.argv)

/-- Why a finished process counts as failed. -/
def failureMessage (invocation : Invocation) (output : Output) : String :=
  if output.stderr.isEmpty then
    match output.exitCode with
    | some code =>
      invocation.moduleName ++ " exited with status " ++ Decimal.intText code
    | none => invocation.moduleName ++ " was terminated by a signal"
  else Text.decodeLossy output.stderr

/-- The result of the run: the decoded output, or the failure. A process that could not be started
answers with the reason in place of an output. -/
def result (invocation : Invocation) : Except String Output → Except ToolFailure String
  | .error reason => .error ⟨reason, none⟩
  | .ok output =>
    if output.success then .ok (Text.decodeLossy output.stdout)
    else .error ⟨invocation.failureMessage output, output.exitCode⟩

/-- The version probe of the tool. -/
def probe (interpreter : Path) (tool : String) : Invocation :=
  ⟨interpreter, tool, ["--version"], none⟩

/-- The installation of the tool by the package manager. -/
def install (interpreter : Path) (tool : String) : Invocation :=
  ⟨interpreter, "pip", ["install", "--upgrade", tool], none⟩

/-- The shell command that a user can run for the installation. -/
def manualInstall (interpreter : Path) (tool : String) : String :=
  interpreter.text ++ " -m pip install --upgrade " ++ tool

end Invocation

end EditorBridge
