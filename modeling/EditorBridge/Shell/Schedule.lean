import EditorBridge.Shell.Run

/-!
# Turns

How processes take turns. A process goes on up to the point where it waits; then the processes that it
has started begin, and after them goes on who has what it waits for. Only when nobody can go on does
time pass, up to the first moment that is waited for; a process that merely gives way to others takes
a little time by that.
-/

namespace EditorBridge.Shell

/-- A process that waits. -/
structure Sleeper where
  process : Nat
  demand : Demand
  resume : World → Outcome Unit

namespace Sleeper

/-- The process has been ended from outside, which it does not know yet. -/
def isEnded (world : World) (sleeper : Sleeper) : Bool :=
  (world.ending? sleeper.process).isSome

/-- The process only gives way to others. -/
def givesWay (sleeper : Sleeper) : Bool := sleeper.demand == .turn

/-- The process can go on. -/
def isReady (world : World) (sleeper : Sleeper) : Bool :=
  isEnded world sleeper ||
    (!sleeper.givesWay && sleeper.demand.isMet world sleeper.process)

/-- The moment that is waited for. -/
def moment? (sleeper : Sleeper) : Option Nat :=
  match sleeper.demand with
  | .moment time => some time
  | _ => none

end Sleeper

namespace Schedule

/-- The time that giving way takes, in nanoseconds. -/
def turnTime : Nat := 100000

/-- Bounds how deep calls are nested in a process, and how deep scripts. -/
def fuel : Nat := 100000

/-- Takes the first entry with a property out of a list. -/
def takeFirst {α : Type} (property : α → Bool) : List α → Option (α × List α)
  | [] => none
  | entry :: rest =>
    if property entry then some (entry, rest)
    else (takeFirst property rest).map fun (found, others) => (found, entry :: others)

/-- What has become of a process: it waits behind the others, or it has come to its end. -/
def settle (sleepers : List Sleeper) : Outcome Unit → List Sleeper × World
  | .done () state | .stopped _ state => (sleepers, state.world)
  | .waiting process demand world resume => (sleepers ++ [⟨process, demand, resume⟩], world)

/-- The process that was started first among those that have not begun. -/
def nextTask? (world : World) : Option (Nat × Task) :=
  let started := world.processes.filterMap fun (process, found) =>
    found.task.map fun task => (process, task)
  match (started.map (·.1)).min? with
  | some first => (started.find? (·.1 == first))
  | none => none

/-- Lets a process begin. -/
def begin (world : World) (process : Nat) (task : Task) : Outcome Unit :=
  let world := world.modifyProcess process fun found => { found with task := none }
  let work : Act Unit := do
    Act.checkAlive
    asShell fuel (run fuel ⟨task.tested, true⟩ task.command)
  Act.asProcess work ⟨world, task.frame, task.status, 0, []⟩

/-- The first process has come to its end, and nobody has its output streams open. -/
def isOver (first : Nat) (streams : List Nat) (world : World) : Bool :=
  (world.ending? first).isSome && streams.all fun pipe => !world.hasWriter pipe

/-- Lets processes take turns up to the end of the first one and of all that is written to its output
streams. `rounds` bounds the number of turns. -/
def through (first : Nat) (streams : List Nat) : Nat → List Sleeper → World → World
  | 0, _, world => world
  | rounds + 1, sleepers, world =>
    let goOn (found : List Sleeper × World) : World := through first streams rounds found.1 found.2
    match nextTask? world with
    | some (process, task) => goOn (settle sleepers (begin world process task))
    | none =>
      match takeFirst (Sleeper.isReady world) sleepers with
      | some (sleeper, others) => goOn (settle others (sleeper.resume world))
      | none =>
        if isOver first streams world then world
        else match takeFirst Sleeper.givesWay sleepers with
          | some (sleeper, others) =>
            goOn (settle others (sleeper.resume { world with clock := world.clock + turnTime }))
          | none =>
            match (sleepers.filterMap Sleeper.moment?).min? with
            | some moment => goOn (sleepers, { world with clock := moment })
            | none => world

/-- The most turns that are taken. -/
def mostTurns : Nat := 20000000

end Schedule

end EditorBridge.Shell
