import EditorBridge.Shell.Builtin.Directory
import EditorBridge.Shell.Builtin.Mask
import EditorBridge.Shell.Builtin.Names
import EditorBridge.Shell.Builtin.Parameters
import EditorBridge.Shell.Builtin.Printf
import EditorBridge.Shell.Builtin.Signals
import EditorBridge.Shell.Condition

/-!
# Performing builtins

The builtins by name, apart from those that run commands themselves. A builtin answers with its
status; what it has printed is written when it is done.
-/

namespace EditorBridge.Shell.Builtin

/-! ### Leaving -/

/-- Ends the shell, with the status that the arguments name or the last one. -/
def exit (arguments : List Raw) : Act Nat := do
  match arguments with
  | argument :: _ =>
    let status ← Act.number argument
    Act.modifyFrame fun frame => { frame with kept := some status }
  | [] => pure ()
  throw .exits

/-- Leaves a function or a file. -/
def return? (arguments : List Raw) : Act Nat := do
  match arguments with
  | argument :: _ =>
    Act.setStatus (← Act.number argument)
    throw (.returns true)
  | [] => throw (.returns false)

/-- Leaves loops, or goes on with one of them. Where there are no loops nothing happens. -/
def leaveLoops (flow : Nat → Flow) (arguments : List Raw) : Act Nat := do
  let levels ← match arguments with
    | argument :: _ => do
      let levels ← Act.number argument
      if levels = 0 then Act.fail (Raw.ofString "Illegal number: " ++ argument) else pure levels
    | [] => pure 1
  let levels := min levels (← Act.frame).loops
  if levels = 0 then return 0
  else
    Act.setStatus 0
    throw (flow levels)

/-! ### Printing -/

/-- Prints its arguments with their escapes read; the line end is left out when the first one says
so. -/
def echo (arguments : List Raw) : Act Nat := do
  match arguments with
  | ['-', 'n'] :: rest => Act.print (Printing.escapedLine false rest)
  | arguments => Act.print (Printing.escapedLine true arguments)
  return 0

/-! ### Conditions -/

/-- Decides a condition. -/
def test (words : List Raw) : Act Nat := do
  let state ← get
  let around : Surroundings :=
    ⟨state.world.tree, state.frame.directory, state.frame.descriptors.map (·.1)⟩
  match Condition.holds around words with
  | .ok holds => return if holds then 0 else 1
  | .error message => Act.fail message

/-- Decides a condition in brackets. -/
def bracket (words : List Raw) : Act Nat := do
  match words.getLast? with
  | some (']' :: _) => test words.dropLast
  | _ => Act.fail (Raw.ofString "missing ]")

/-! ### Limits -/

/-- The letters of the limits that there are. -/
def limitLetters : String := "HSatfdscmlpnvwr"

/-- Tells that nothing is limited. -/
def ulimit (arguments : List Raw) : Act Nat := do
  let (_, operands) ← options limitLetters arguments
  if operands.isEmpty then Act.printLine (Raw.ofString "unlimited")
  return 0

/-- Tells how much time was used up: none. -/
def times (_ : List Raw) : Act Nat := do
  let line := Raw.ofString "0m0.000000s 0m0.000000s"
  Act.printLine line
  Act.printLine line
  return 0

/-! ### By name -/

/-- The builtin of a name. -/
def ofName? (name : Raw) : Option (List Raw → Act Nat) :=
  match String.ofList name with
  | ":" | "true" => some fun _ => return 0
  | "false" => some fun _ => return 1
  | "exit" => some exit
  | "return" => some return?
  | "break" => some (leaveLoops .breaks)
  | "continue" => some (leaveLoops .continues)
  | "cd" | "chdir" => some cd
  | "pwd" => some pwd
  | "set" => some set
  | "shift" => some shift
  | "export" => some exportAll
  | "readonly" => some fixAll
  | "local" => some makeLocal
  | "unset" => some unset
  | "read" => some read
  | "getopts" => some getopts
  | "alias" => some makeAliases
  | "unalias" => some dropAliases
  | "hash" => some hash
  | "type" => some type
  | "command" => some command
  | "kill" => some kill
  | "trap" => some trap
  | "wait" => some wait
  | "jobs" => some jobs
  | "fg" | "bg" => some move
  | "umask" => some umask
  | "ulimit" => some ulimit
  | "times" => some times
  | "echo" => some echo
  | "printf" => some fun arguments => do printf (← operands arguments)
  | "test" => some test
  | "[" => some bracket
  | _ => none

/-- Performs a builtin under its name: what it has printed is written at its end. A builtin that fails
ends the shell only when it is special. -/
def perform (name : Raw) (special : Bool) (act : Act Nat) : Act Unit := do
  let before := (← Act.frame).speaker
  Act.modifyFrame fun frame => { frame with speaker := some name }
  let work : Act Unit := do
    let status ← act
    match ← Act.flush with
    | none => Act.setStatus status
    | some _ =>
      Act.complain (name ++ Raw.ofString ": I/O error")
      Act.setStatus (status.lor 1)
  let guarded : Act Unit := Act.catching work fun flow => do
    let _ ← Act.flush
    if flow == .fails && !special then pure () else throw flow
  Act.ending guarded (Act.modifyFrame fun frame => { frame with speaker := before })

end EditorBridge.Shell.Builtin
