import EditorBridge.Command.Format

/-!
# Formatting all documents at once

Every visible document has a worker of its own. The workers take turns in any order, one request at
a time; a collector waits for them in document order and reports those that were ended without an
outcome. A schedule says whose turn it is; the turns that it leaves out come after it.
-/

namespace EditorBridge.Command

/-- The work on one document. There is no program left when asking ended it. -/
structure Worker where
  document : Document
  program? : Option (Program Outcome)

/-- Who makes the next request. -/
inductive Turn where
  | worker (index : Nat)
  | collector
  deriving DecidableEq, Repr

/-- All workers, the outcomes collected so far in document order, and everything that was asked
for, with whose turn it was. -/
structure Pool (σ : Type) where
  state : σ
  workers : List Worker
  collected : List Outcome
  trace : List (Turn × Event)

/-- The outcome of a document whose worker was ended. -/
def panicked (document : Document) : Outcome :=
  .failed ("Formatting \"" ++ document.displayName ++ "\" panicked")

namespace Pool

/-- Every document has a worker at its start. -/
def start {σ : Type} (workspace : Workspace) (state : σ) : Pool σ where
  state := state
  workers := workspace.documents.map fun document =>
    ⟨document, some (formatDocument workspace document true)⟩
  collected := []
  trace := []

/-- A worker makes one request; one that has ended makes none. -/
def workerTurn {σ : Type} (host : Host σ) (pool : Pool σ) (index : Nat) : Pool σ :=
  match pool.workers[index]? with
  | some ⟨document, some (.ask request next)⟩ =>
    let (answer, state) := host.answer request pool.state
    { pool with
      state := state
      workers := pool.workers.set index ⟨document, answer.map next⟩
      trace := pool.trace ++ [(.worker index, ⟨request, answer⟩)] }
  | _ => pool

/-- The collector takes over the outcome of the first document that it has not collected, if its
worker has ended. -/
def collectorTurn {σ : Type} (host : Host σ) (pool : Pool σ) : Pool σ :=
  match pool.workers[pool.collected.length]? with
  | some ⟨_, some (.done outcome)⟩ => { pool with collected := pool.collected ++ [outcome] }
  | some ⟨document, none⟩ =>
    let run := (Program.report (panicked document)).run host pool.state
    { pool with
      state := run.state
      collected := pool.collected ++ [panicked document]
      trace := pool.trace ++ run.trace.map (.collector, ·) }
  | _ => pool

/-- Takes a turn. -/
def turn {σ : Type} (host : Host σ) (pool : Pool σ) : Turn → Pool σ
  | .worker index => pool.workerTurn host index
  | .collector => pool.collectorTurn host

/-- Takes the turns of a schedule. -/
def follow {σ : Type} (host : Host σ) (pool : Pool σ) (schedule : List Turn) : Pool σ :=
  schedule.foldl (turn host) pool

/-- Lets a worker make all its requests. -/
def finishWorker {σ : Type} (host : Host σ) (pool : Pool σ) (index : Nat) : Pool σ :=
  match pool.workers[index]? with
  | some ⟨document, some program⟩ =>
    let run := program.run host pool.state
    { pool with
      state := run.state
      workers := pool.workers.set index ⟨document, run.value.map .done⟩
      trace := pool.trace ++ run.trace.map (.worker index, ·) }
  | _ => pool

/-- Lets the workers finish one after the other, then collects all outcomes. -/
def settle {σ : Type} (host : Host σ) (pool : Pool σ) : Pool σ :=
  let finished := (List.range pool.workers.length).foldl (finishWorker host) pool
  (List.range pool.workers.length).foldl (fun pool _ => pool.collectorTurn host) finished

end Pool

/-- Formats all visible documents, taking turns as the schedule says. -/
def formatAll {σ : Type} (host : Host σ) (schedule : List Turn) (workspace : Workspace)
    (state : σ) : Run σ (List Outcome) :=
  let pool := ((Pool.start workspace state).follow host schedule).settle host
  ⟨some pool.collected, pool.state, pool.trace.map (·.2)⟩

end EditorBridge.Command
