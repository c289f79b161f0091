import EditorBridge.Shell.World

/-!
# What a process does

A process reads and changes its state step by step. It can stop before its end, and it can wait for
something in the world; then it is a function that goes on from the world at that time.
-/

namespace EditorBridge.Shell

/-- A process in its world. -/
structure State where
  world : World
  frame : Frame
  /-- The status of the last command. -/
  status : Nat
  /-- The status of the last commands in an expansion, since the command began. -/
  substituted : Nat
  /-- What the builtin that is being run has printed, the last character first. -/
  printed : Raw

/-- Why a process does not go on with the next command. -/
inductive Flow where
  /-- It ends with its status. -/
  | exits
  /-- A command failed in such a way that the shell ends, unless the command is none of its own. -/
  | fails
  /-- Leaves a function or a file; `given` says that it was told the status. -/
  | returns (given : Bool)
  | breaks (levels : Nat)
  | continues (levels : Nat)
  /-- It has been ended from outside. -/
  | killed
  /-- It never ends. -/
  | stuck
  deriving DecidableEq, Repr

/-- What a process has come to. -/
inductive Outcome (α : Type) where
  | done (value : α) (state : State)
  | stopped (flow : Flow) (state : State)
  /-- The process of a number waits. -/
  | waiting (process : Nat) (demand : Demand) (world : World) (resume : World → Outcome α)

/-- Goes on with the value of an outcome. -/
def Outcome.andThen {α β : Type} (outcome : Outcome α) (next : α → State → Outcome β) :
    Outcome β :=
  match outcome with
  | .done value state => next value state
  | .stopped flow state => .stopped flow state
  | .waiting process demand world resume =>
    .waiting process demand world fun world => (resume world).andThen next

/-- Goes on where an outcome has stopped. -/
def Outcome.orElse {α : Type} (outcome : Outcome α) (handle : Flow → State → Outcome α) :
    Outcome α :=
  match outcome with
  | .done value state => .done value state
  | .stopped flow state => handle flow state
  | .waiting process demand world resume =>
    .waiting process demand world fun world => (resume world).orElse handle

/-- Something that a process does. -/
def Act (α : Type) : Type := State → Outcome α

namespace Act

/-- Does nothing. -/
def nothing {α : Type} (value : α) : Act α := fun state => .done value state

/-- Does one thing after another. -/
def andThen {α β : Type} (act : Act α) (next : α → Act β) : Act β :=
  fun state => (act state).andThen next

/-- Stops. -/
def stop {α : Type} (flow : Flow) : Act α := fun state => .stopped flow state

/-- Does something else when the act stops. -/
def catching {α : Type} (act : Act α) (handle : Flow → Act α) : Act α :=
  fun state => (act state).orElse handle

instance : Monad Act where
  pure := nothing
  bind := andThen

instance : MonadStateOf State Act where
  get := fun state => .done state state
  set := fun state _ => .done () state
  modifyGet := fun change state =>
    let (value, state) := change state
    .done value state

instance : MonadExceptOf Flow Act where
  throw := stop
  tryCatch := catching

instance {α : Type} : Inhabited (Act α) := ⟨stop .stuck⟩

/-- Waits for something. -/
def await (demand : Demand) : Act Unit := fun state =>
  .waiting state.frame.process demand state.world fun world =>
    .done () { state with world := world }

/-- The frame of the process. -/
def frame : Act Frame := return (← get).frame

/-- The world around the process. -/
def world : Act World := return (← get).world

/-- Changes the frame. -/
def modifyFrame (change : Frame → Frame) : Act Unit :=
  modify fun state => { state with frame := change state.frame }

/-- Changes the world. -/
def modifyWorld (change : World → World) : Act Unit :=
  modify fun state => { state with world := change state.world }

/-- Sets the status. -/
def setStatus (status : Nat) : Act Unit := modify fun state => { state with status := status }

/-- Ends with a status. -/
def exitWith {α : Type} (status : Nat) : Act α := do
  setStatus status
  throw .exits

/-- Does something and then, however it ends, something else. -/
def ending {α : Type} (act : Act α) (after : Act Unit) : Act α := do
  let value ← catching act fun flow => do
    after
    throw flow
  after
  return value

/-- Stops when the process has been ended from outside. -/
def checkAlive : Act Unit := do
  let state ← get
  if (state.world.ending? state.frame.process).isSome then throw .killed

/-- How often a loop is gone through before it counts as one without an end. -/
def mostRounds : Nat := 1000000

/-- Takes one step after another, each from the result of the one before, up to one that gives the
answer. -/
def stepping {α β : Type} (step : α → Act (α ⊕ β)) : Nat → α → Act β
  | 0, _ => throw .stuck
  | rounds + 1, start => do
    match ← step start with
    | .inl next => stepping step rounds next
    | .inr answer => return answer

/-- Does something for one value after another, as long as the answer says so. -/
def through {α : Type} (act : α → Act Bool) : List α → Act Unit
  | [] => pure ()
  | value :: rest => do if ← act value then through act rest

end Act

end EditorBridge.Shell
