import EditorBridge.Terminal.Arguments

/-!
# The command line

Runs a command line on a machine and says with which status it exits: zero when all went well or
there was nothing to do, one when an error was reported, and two when the arguments make no sense.
-/

namespace EditorBridge.CommandLine

/-- The name and the version of the program. -/
def versionLine : String := "docbridge 0.3.0\n"

/-- How the program is called. -/
def usage : String :=
  "Usage: docbridge [OPTIONS] <COMMAND>\n\n" ++
  "Commands:\n" ++
  "  format <FILE>          Clean the docstrings of a file in place, or of the input for -\n" ++
  "  format-all <FILES>...  Clean several files concurrently\n" ++
  "  save <FILE>            Run the hook for a file that was just saved\n" ++
  "  overview <TARGET>      Print the overview of a file or an overview URI\n" ++
  "  check                  Check that the tool is installed, and offer to install it\n" ++
  "  install                Install or upgrade the tool\n\n" ++
  "Options:\n" ++
  "  -c, --config <CONFIG>  Settings file\n" ++
  "  -y, --yes              Accept install and upgrade prompts\n" ++
  "  -h, --help             Print help\n" ++
  "  -V, --version          Print version\n"

/-- The exit status of a report. -/
def reportStatus (report : Report) : Nat := if report.isSuccess then 0 else 1

/-- Prints what is left to print at the end, and decides the exit status. -/
def finish (machine : Machine) : Option (Except Error Ending) → Nat × Machine
  | none => (101, machine)
  | some (.error error) => (1, machine.printError ("Error: " ++ error.message ++ "\n"))
  | some (.ok (.report report)) => (reportStatus report, machine)
  | some (.ok (.content (some content))) => (0, machine.print content)
  | some (.ok (.content none)) => (1, machine)

/-- Answers a command line without an operation. -/
def interrupt (machine : Machine) : Interruption → Nat × Machine
  | .usage => (2, machine.printError usage)
  | .help => (0, machine.print usage)
  | .version => (0, machine.print versionLine)

/-- Runs a command line. -/
def run (runner : Runner) (arguments : List String) (machine : Machine) : Nat × Machine :=
  match read arguments with
  | .error interruption => interrupt machine interruption
  | .ok (options, operation) =>
    let run := operation.perform runner options machine
    finish run.state.machine run.value

end EditorBridge.CommandLine
