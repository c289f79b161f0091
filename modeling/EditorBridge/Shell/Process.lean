import EditorBridge.Machine.Basic
import EditorBridge.Shell.Schedule
import EditorBridge.Tool.Call

/-!
# Processes

Starting a process on a machine and running it to its end. The process starts in the directory of
the call, gets no input, and has both its output streams captured; what it does to the files stays.
-/

namespace EditorBridge

open Shell

namespace Machine

/-- The reason for refusing a call with a NUL in it. -/
def nulInCall : String := "nul byte found in provided data"

/-- Some text of the call holds a NUL. -/
def holdsNul (call : Call) : Bool :=
  (call.program.text :: call.arguments ++ (call.directory.map Path.text).toList).any fun text =>
    text.toList.contains '\x00'

/-- The directory that the process of a call starts in. -/
def startDirectory (machine : Machine) (call : Call) : Except Fault Place :=
  match call.directory with
  | some path => machine.tree.findDirectory machine.directory path
  | none => .ok machine.directory

/-- The variables that a process gets. -/
def startEnvironment : List (Raw × Raw) :=
  [(Raw.ofString "PATH", Raw.ofString (":".intercalate Launch.usualDirectories))]

/-- What is left of the world when a process has come to its end, and how it ended; there is no answer
when it never does. -/
structure Remains where
  world : World
  ending : Option Ending
  stdout : Raw
  stderr : Raw

/-- The world in which a process begins, with the process and the pipes of its output streams. -/
def startState (tree : Tree) (directory : Place) : State × Nat × Nat :=
  let (stdout, world) := (World.ofTree tree).addPipe (Pipe.empty true)
  let (stderr, world) := world.addPipe (Pipe.empty true)
  let open? (channel : Channel) (readable : Bool) : OpenFile :=
    ⟨channel, 0, false, readable, !readable, 1⟩
  let (input, world) := world.addFile (open? (.device .sink) true)
  let (output, world) := world.addFile (open? (.inlet stdout) false)
  let (error, world) := world.addFile (open? (.inlet stderr) false)
  let (parent, world) := world.addProcess Process.plain
  let (process, world) := world.addProcess Process.plain
  let frame := Frame.bare process parent directory [(0, input), (1, output), (2, error)]
  (⟨world, frame, 0, 0, []⟩, stdout, stderr)

/-- Runs a system program up to its end, and as long as anyone writes to its output streams. -/
def runToEnd (tree : Tree) (directory : Place) (found : Launch) : Remains :=
  let (start, stdout, stderr) := startState tree directory
  let process := start.frame.process
  let begun := Act.asProcess (launch Schedule.fuel found startEnvironment) start
  let (sleepers, world) := Schedule.settle [] begun
  let world := Schedule.through process [stdout, stderr] Schedule.mostTurns sleepers world
  ⟨world, world.ending? process, (world.pipe stdout).content, (world.pipe stderr).content⟩

/-- What a process leaves behind: an exit code, unless a signal ended it or it never ends. -/
def Remains.output (remains : Remains) : Output :=
  let exitCode := match remains.ending with
    | some (.exit status) => some status
    | some (.killedBy _) | none => none
  { success := exitCode == some 0
    exitCode := exitCode.map Int.ofNat
    stdout := Raw.toBytes remains.stdout
    stderr := Raw.toBytes remains.stderr }

/-- Runs a system program on a machine. -/
def execute (machine : Machine) (directory : Place) (found : Launch) : Output × Machine :=
  let remains := runToEnd machine.tree directory found
  (remains.output, { machine with tree := remains.world.tree })

/-- Runs the process of a call. A process that cannot be started answers with the reason. -/
def spawn (machine : Machine) (call : Call) : Except String Output × Machine :=
  if holdsNul call then (.error nulInCall, machine)
  else
    let arguments := (call.program.text :: call.arguments).map Text.encode
    let found := do
      let directory ← machine.startDirectory call
      let found ← Launch.ofName machine.tree directory Launch.usualDirectories call.program.text
        arguments
      return (directory, found)
    match found with
    | .error fault => (.error fault.message, machine)
    | .ok (directory, found) =>
      let (output, machine) := machine.execute directory found
      (.ok output, machine)

end Machine

end EditorBridge
