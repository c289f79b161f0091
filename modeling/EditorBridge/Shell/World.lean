import EditorBridge.Machine.Walk
import EditorBridge.Shell.Frame

/-!
# The world of processes

What all processes share: the files, the pipes, the open files that descriptors stand for, the clock,
and what is known about each process.
-/

namespace EditorBridge.Shell

/-- What an open file leads to. -/
inductive Channel where
  | file (place : Place)
  /-- A file that has no place any more. -/
  | loose (content : Text.Bytes)
  /-- The end of a pipe that is read from. -/
  | outlet (pipe : Nat)
  /-- The end of a pipe that is written to. -/
  | inlet (pipe : Nat)
  | directory
  | program
  | device (device : Device)
  deriving DecidableEq, Repr

/-- An open file. Descriptors that were copied from each other share it, with the place in it. -/
structure OpenFile where
  channel : Channel
  offset : Nat
  /-- Everything is written behind the end. -/
  appends : Bool
  readable : Bool
  writable : Bool
  /-- The number of descriptors that stand for it. -/
  users : Nat
  deriving DecidableEq, Repr

/-- A pipe. -/
structure Pipe where
  /-- What can be read, the first character first. -/
  ready : Raw
  /-- What was written behind that, the last character first. -/
  arrived : Raw
  /-- The number of characters in it. -/
  size : Nat
  /-- Someone outside takes all that is written, at any time. -/
  captured : Bool
  deriving DecidableEq, Repr

namespace Pipe

/-- A pipe with nothing in it. -/
def empty (captured : Bool) : Pipe := ⟨[], [], 0, captured⟩

/-- How many characters a pipe takes that nobody reads. -/
def room : Nat := 65536

/-- The pipe takes no more for now. -/
def isFull (pipe : Pipe) : Bool := !pipe.captured && room ≤ pipe.size

/-- The pipe with more in it. -/
def add (pipe : Pipe) (raw : Raw) : Pipe :=
  { pipe with arrived := raw.reverse ++ pipe.arrived, size := pipe.size + raw.length }

/-- All that is in the pipe. -/
def content (pipe : Pipe) : Raw := pipe.ready ++ pipe.arrived.reverse

/-- Takes some characters out of the pipe, all of them unless a number is given. -/
def take (pipe : Pipe) (count : Option Nat) : Raw × Pipe :=
  let content := if pipe.arrived.isEmpty then pipe.ready else pipe.content
  let taken := match count with
    | some count => content.take count
    | none => content
  (taken, { pipe with
    ready := content.drop taken.length, arrived := [], size := pipe.size - taken.length })

end Pipe

/-- What a process that has not started yet will do. -/
structure Task where
  frame : Frame
  command : Command
  /-- Someone looks at its status. -/
  tested : Bool
  status : Nat

/-- What is known about a process. -/
structure Process where
  ending : Option Ending
  /-- The signals that have arrived and are still to be acted on. -/
  pending : List Signal
  /-- The signals that the process acts on by itself. -/
  handled : List Signal
  ignored : List Signal
  /-- What it will do, as long as it has not started. -/
  task : Option Task

namespace Process

/-- A process that runs and takes no care of signals. -/
def plain : Process := ⟨none, [], [], [], none⟩

end Process

/-- What all processes share. -/
structure World where
  tree : Tree
  pipes : Array Pipe
  files : List (Nat × OpenFile)
  nextFile : Nat
  processes : List (Nat × Process)
  nextProcess : Nat
  /-- The time since the start, in nanoseconds. -/
  clock : Nat

namespace World

/-- A world with files and nothing else. -/
def ofTree (tree : Tree) : World where
  tree := tree
  pipes := #[]
  files := []
  nextFile := 0
  processes := []
  nextProcess := 4711
  clock := 0

/-! ### Pipes and open files -/

/-- The pipe of a number. -/
def pipe (world : World) (index : Nat) : Pipe := (world.pipes[index]?).getD (Pipe.empty true)

/-- Changes a pipe. -/
def modifyPipe (world : World) (index : Nat) (change : Pipe → Pipe) : World :=
  { world with pipes := world.pipes.modify index change }

/-- Makes a pipe and gives its number. -/
def addPipe (world : World) (pipe : Pipe) : Nat × World :=
  (world.pipes.size, { world with pipes := world.pipes.push pipe })

/-- Makes an open file with one user and gives its number. -/
def addFile (world : World) (file : OpenFile) : Nat × World :=
  (world.nextFile, { world with
    files := (world.nextFile, file) :: world.files, nextFile := world.nextFile + 1 })

/-- Changes an open file. -/
def modifyFile (world : World) (index : Nat) (change : OpenFile → OpenFile) : World :=
  { world with
    files := world.files.map fun (number, file) =>
      (number, if number == index then change file else file) }

/-- Adds users to open files. -/
def share (world : World) (indices : List Nat) : World :=
  indices.foldl
    (fun world index => world.modifyFile index fun file => { file with users := file.users + 1 })
    world

/-- Takes users away from open files; without users they are gone. -/
def release (world : World) (indices : List Nat) : World :=
  indices.foldl
    (fun world index =>
      let world := world.modifyFile index fun file => { file with users := file.users - 1 }
      { world with files := world.files.filter fun (_, file) => file.users != 0 })
    world

/-- Some open file leads to the channel. -/
def isOpen (world : World) (channel : Channel) : Bool :=
  world.files.any fun (_, file) => file.channel == channel

/-- Someone can read from the pipe. -/
def hasReader (world : World) (pipe : Nat) : Bool :=
  (world.pipe pipe).captured || world.isOpen (.outlet pipe)

/-- Someone can write to the pipe. -/
def hasWriter (world : World) (pipe : Nat) : Bool := world.isOpen (.inlet pipe)

/-- Takes away the node at a place; whoever has it open keeps its content. -/
def removeNode (world : World) (place : Place) : World :=
  let content := match world.tree.node? place with
    | some (.file content _) => content
    | _ => []
  { world with
    tree := world.tree.remove place
    files := world.files.map fun (number, file) =>
      (number,
        if file.channel == .file place then { file with channel := .loose content } else file) }

/-! ### Processes -/

/-- What is known about a process. -/
def process? (world : World) (process : Nat) : Option Process := world.processes.lookup process

/-- Changes what is known about a process. -/
def modifyProcess (world : World) (process : Nat) (change : Process → Process) : World :=
  { world with
    processes := world.processes.map fun (number, found) =>
      (number, if number == process then change found else found) }

/-- Makes a process and gives its number. -/
def addProcess (world : World) (process : Process) : Nat × World :=
  (world.nextProcess, { world with
    processes := (world.nextProcess, process) :: world.processes
    nextProcess := world.nextProcess + 1 })

/-- Forgets a process. -/
def forget (world : World) (process : Nat) : World :=
  { world with processes := world.processes.filter (·.1 != process) }

/-- How a process ended, if it has. -/
def ending? (world : World) (process : Nat) : Option Ending :=
  (world.process? process).bind Process.ending

/-- Notes how a process ended, unless it had ended before. -/
def finish (world : World) (process : Nat) (ending : Ending) : World :=
  world.modifyProcess process fun found =>
    { found with ending := some (found.ending.getD ending), task := none }

/-- A signal has arrived that the process acts on. -/
def hasPending (world : World) (process : Nat) : Bool :=
  (world.process? process).any fun found => !found.pending.isEmpty

/-- Notes which signals the process of a frame acts on and which it ignores. -/
def announce (world : World) (frame : Frame) : World :=
  let planned (isEmpty : Bool) : List Signal :=
    frame.traps.filterMap fun (signal, action) =>
      if action.isEmpty == isEmpty && !frame.deaf.contains signal then some signal else none
  world.modifyProcess frame.process fun found =>
    { found with handled := planned false, ignored := frame.deaf ++ planned true }

/-- What a signal does to a process that runs. -/
def deliver (world : World) (process : Nat) (signal : Signal) : World :=
  world.modifyProcess process fun found =>
    if found.ending.isSome || signal = 0 then found
    else if Signal.isAbsolute signal then { found with ending := some (.killedBy signal) }
    else if found.ignored.contains signal then found
    else if found.handled.contains signal then
      { found with pending := signal :: found.pending.filter (· != signal) }
    else if Signal.isHarmless signal then found
    else { found with ending := some (.killedBy signal) }

end World

/-- What a process waits for before it goes on. -/
inductive Demand where
  /-- Nothing, but others may go on first. -/
  | turn
  | moment (time : Nat)
  /-- Something to read, or nobody who writes. -/
  | supply (pipe : Nat)
  /-- Room in a pipe, or nobody who reads. -/
  | space (pipe : Nat)
  /-- Nobody who writes to a pipe. -/
  | silence (pipe : Nat)
  /-- The end of one of some processes, or a signal if that counts as well. -/
  | ends (processes : List Nat) (orSignal : Bool)
  deriving DecidableEq, Repr

/-- What a process waits for has come about. -/
def Demand.isMet (demand : Demand) (world : World) (waiting : Nat) : Bool :=
  match demand with
  | .turn => true
  | .moment time => time ≤ world.clock
  | .supply pipe => (world.pipe pipe).size != 0 || !world.hasWriter pipe
  | .space pipe => !(world.pipe pipe).isFull || !world.hasReader pipe
  | .silence pipe => !world.hasWriter pipe
  | .ends processes orSignal =>
    (orSignal && world.hasPending waiting) || processes.any fun process =>
      match world.process? process with
      | some found => found.ending.isSome
      | none => true

end EditorBridge.Shell
