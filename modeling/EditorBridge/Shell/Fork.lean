import EditorBridge.Shell.Builtin.Jobs
import EditorBridge.Shell.Redirect

/-!
# Processes of a shell

How a shell starts processes. A subshell that is waited for runs at once, and goes back to the frame
of its shell at its end; a process that runs beside the shell is noted with what it will do, and is
started when the shell waits.
-/

namespace EditorBridge.Shell

namespace Frame

/-- The frame of a subshell: it has plans only to ignore signals, and knows no jobs. -/
def forSubshell (frame : Frame) (process : Nat) : Frame :=
  { frame with
    process := process
    parent := frame.process
    traps := frame.traps.filter fun (_, action) => action.isEmpty
    jobs := []
    kept := none }

/-- The frame with a descriptor that stands for an open file. -/
def withDescriptor (frame : Frame) (descriptor index : Nat) : Frame :=
  { frame with
    descriptors := (descriptor, index) :: frame.descriptors.filter (·.1 != descriptor) }

/-- The frame of a program in the stead of the shell. -/
def forProgram (frame : Frame) (environment : List (Raw × Raw)) : Frame :=
  let bare := Frame.bare frame.process frame.parent frame.directory frame.descriptors
  { bare with
    bindings := environment.map fun (name, value) => ⟨name, some value, true, false⟩
    deaf := frame.deaf ++ frame.traps.filterMap fun (signal, action) =>
      if action.isEmpty && signal != 0 then some signal else none
    mask := frame.mask }

end Frame

namespace Act

/-- Makes a process with a frame like the present one. -/
def child (prepare : Frame → Frame) : Act Frame :=
  modifyGet fun state =>
    let (process, world) := state.world.addProcess Process.plain
    let frame := prepare (state.frame.forSubshell process)
    let world := (world.share (frame.descriptors.map (·.2))).announce frame
    (frame, { state with world := world })

/-- Goes on where something stops, unless that never ends. -/
def settling (act : Act Unit) : Act Unit :=
  catching act fun flow => if flow == .stuck then throw .stuck else pure ()

/-- How the process has come to its end. -/
def endingHere : Act Ending := do
  let state ← get
  return (state.world.ending? state.frame.process).getD (.exit (state.status % 256))

/-- Does something in the frame of another process up to its end, and goes back to the present one. -/
def inFrame (frame : Frame) (body : Act Unit) : Act Ending := do
  let outer ← get
  modify fun state => { state with frame := frame, printed := [] }
  settling body
  closeAll
  let ending ← endingHere
  modify fun state => { outer with world := state.world.forget frame.process }
  checkAlive
  return ending

/-- Waits for a process of its own, reports its end and takes its status. -/
def awaitProcess (prepare : Frame → Frame) (body : Act Unit) : Act Unit := do
  let ending ← inFrame (← child prepare) body
  report ending
  setStatus ending.status

/-- Notes a process that will run beside the shell, and gives its number. -/
def spawn (prepare : Frame → Frame) (command : Command) (tested : Bool) : Act Nat := do
  let frame ← child prepare
  let status := (← get).status
  modifyWorld fun world => world.modifyProcess frame.process fun found =>
    { found with task := some ⟨frame, command, tested, status⟩ }
  return frame.process

/-- Does what a process does from its start to its end. -/
def asProcess (body : Act Unit) : Act Unit := do
  settling body
  closeAll
  let ending ← endingHere
  let process := (← frame).process
  modifyWorld fun world => world.finish process ending

/-- Makes a pipe; the answer is its number, and the open files of the ends for reading and for
writing. -/
def makePipe (captured : Bool) : Act (Nat × Nat × Nat) := do
  let pipe ← modifyGet fun state =>
    let (pipe, world) := state.world.addPipe (Pipe.empty captured)
    (pipe, { state with world := world })
  return (pipe, ← openChannel .reading (.outlet pipe),
    ← openChannel { writable := true } (.inlet pipe))

/-- Collects what something in a process of its own writes, up to the time when nobody can write any
more; the second part is the status of the process. -/
def collecting (body : Act Unit) : Act (Raw × Nat) := do
  let (pipe, outlet, inlet) ← makePipe true
  closeFile outlet
  let frame ← child fun frame => frame.withDescriptor 1 inlet
  closeFile inlet
  let ending ← inFrame frame body
  stepping
    (fun () => do
      checkAlive
      if (← world).hasWriter pipe then
        await (.silence pipe)
        return .inl ()
      else return .inr ())
    mostRounds ()
  report ending
  let (found, rest) := ((← world).pipe pipe).take none
  modifyWorld fun world => world.modifyPipe pipe fun _ => rest
  return (found, ending.status)

/-- How a process in the background is prepared: it ignores interrupts, and the first one of a job has
nothing to read. -/
def inBackground (frame : Frame) (input : Option Nat) : Frame :=
  let frame := { frame with deaf := 2 :: 3 :: frame.deaf }
  match input with
  | some index => frame.withDescriptor 0 index
  | none => frame

end Act

end EditorBridge.Shell
