import EditorBridge.Shell.Builtin.Options

/-!
# Jobs

What a shell knows about the processes that it has started: it takes note of their ends, waits for
them and tells about them. A process of a job that is waited for is reported when a signal ended it.
-/

namespace EditorBridge.Shell

namespace Act

/-! ### Taking note of ends -/

/-- Changes the jobs. -/
def modifyJobs (change : List Job → List Job) : Act Unit :=
  modifyFrame fun frame => { frame with jobs := change frame.jobs }

/-- A job with the ends of its processes that have come about. -/
def noted (world : World) (job : Job) : Job :=
  { job with
    processes := job.processes.map fun (process, known) =>
      (process, known.or (world.ending? process)) }

/-- Takes note of the processes that have ended, after which they are forgotten. -/
def reap : Act Unit := do
  let state ← get
  let jobs := state.frame.jobs.map (noted state.world)
  let ended := jobs.flatMap fun job =>
    job.processes.filterMap fun (process, known) => if known.isSome then some process else none
  modifyJobs fun _ => jobs
  modifyWorld fun world => ended.foldl World.forget world

/-- Reports a process that a signal has ended. -/
def report (ending : Ending) : Act Unit := do
  match ending with
  | .killedBy signal =>
    if Signal.isReported signal then writeError (Raw.ofString (Signal.report signal) ++ ['\n'])
  | .exit _ => pure ()

/-- The shell has a signal to act on. -/
def hasPending : Act Bool := do
  let state ← get
  return state.world.hasPending state.frame.process

/-- Waits for a job to its end and reports its processes. When a signal comes in between that stops
the waiting, there is no answer. -/
def awaitJob (number : Nat) (stops : Bool) : Act (Option Ending) :=
  stepping
    (fun () => do
      checkAlive
      let before := (← frame).jobs.find? (·.number == number)
      reap
      match before, (← frame).jobs.find? (·.number == number) with
      | some before, some job =>
        (before.processes.zip job.processes).forM fun (old, new) =>
          match old.2, new.2 with
          | none, some ending => report ending
          | _, _ => pure ()
        if job.isDone then return .inr job.ending?
        else if stops && (← hasPending) then return .inr none
        else
          await (.ends (job.processes.filterMap fun (process, known) =>
            if known.isNone then some process else none) stops)
          return .inl ()
      | _, _ => return .inr none)
    mostRounds ()

/-- Starts to keep a job, under the lowest number that is free. A job that was waited for to its end
is kept until then. -/
def addJob (processes : List Nat) : Act Nat := do
  let jobs := (← frame).jobs
  let number := (((List.range (jobs.length + 1)).map (· + 1)).find? fun number =>
    jobs.all (·.number != number)).getD 1
  modifyJobs fun jobs => ⟨number, processes.map fun process => (process, none)⟩ :: jobs
  return number

/-- Forgets a job. -/
def dropJob (number : Nat) : Act Unit := modifyJobs fun jobs => jobs.filter (·.number != number)

end Act

namespace Builtin

/-! ### Finding jobs -/

/-- The job that a text with a percent sign names, or the last one. -/
def jobOf (name : Option Raw) : Act Job := do
  let jobs := (← Act.frame).jobs
  let refuse (message : Raw) : Act Job := Act.fail message
  let isCurrent := match name with
    | none => true
    | some name => name == ['%'] || name == ['%', '+'] || name == ['%', '%']
  let spelled := name.getD []
  if isCurrent then
    match jobs.head? with
    | some job => return job
    | none => refuse (Raw.ofString "No current job")
  else if spelled == ['%', '-'] then
    match jobs[1]? with
    | some job => return job
    | none => refuse (Raw.ofString "No previous job")
  else
    let digits := spelled.drop 1
    let found := if spelled.head? == some '%' && !digits.isEmpty && digits.all Decimal.isDigit then
        jobs.find? (·.number == Decimal.value digits)
      else none
    match found with
    | some job => return job
    | none => refuse (Raw.ofString "No such job: " ++ spelled)

/-! ### Waiting -/

/-- Waits for one job, or for the job of a process. -/
def waitFor (target : Raw) : Act Nat := do
  let job? ← if target.head? == some '%' then do pure (some (← jobOf (some target)))
    else do
      let process ← Act.number target
      pure ((← Act.frame).jobs.find? (·.last == process))
  match job? with
  | none => return 127
  | some job =>
    match ← Act.awaitJob job.number true with
    | some ending => return ending.status
    | none => interrupted
where
  /-- The status after a signal has stopped the waiting. -/
  interrupted : Act Nat := do
    let state ← get
    let pending := match state.world.process? state.frame.process with
      | some found => found.pending
      | none => []
    return 128 + pending.headD 0

/-- Waits for all jobs, without reports. -/
def waitForAll : Act Nat :=
  Act.stepping
    (fun () => do
      Act.checkAlive
      Act.reap
      let running := (← Act.frame).jobs.flatMap fun job =>
        job.processes.filterMap fun (process, known) => if known.isNone then some process else none
      if running.isEmpty then return .inr 0
      else if ← Act.hasPending then return .inr (← waitFor.interrupted)
      else
        Act.await (.ends running true)
        return .inl ())
    Act.mostRounds ()

/-- Waits for jobs; the status is that of the last one. -/
def wait (arguments : List Raw) : Act Nat := do
  match ← operands arguments with
  | [] => waitForAll
  | targets => return (← targets.mapM waitFor).getLastD 0

/-! ### Telling about jobs -/

/-- What is told about the state of a job. -/
def stateText (job : Job) : String :=
  if !job.isDone then "Running"
  else match job.ending? with
    | some (.exit 0) | none => "Done"
    | some (.exit status) => "Done(" ++ Decimal.natText status ++ ")"
    | some (.killedBy signal) => Signal.report signal

/-- The line about a job, which is the current one, the one before, or another. -/
def jobLine (place : Nat) (withProcess : Bool) (job : Job) : Raw :=
  let sign := if place = 0 then "+" else if place = 1 then "-" else " "
  let process := if withProcess then Decimal.natText job.last ++ " " else ""
  let text := Raw.ofString ("[" ++ Decimal.natText job.number ++ "] " ++ sign ++ " " ++ process ++
    stateText job)
  text ++ List.replicate (max 1 (33 - text.length)) ' '

/-- Tells about all jobs; those that are done are forgotten then. -/
def jobs (arguments : List Raw) : Act Nat := do
  let (options, _) ← options "lp" arguments
  Act.reap
  let all := (← Act.frame).jobs
  all.zipIdx.forM fun (job, place) =>
    match options.getLast? with
    | some ('p', _) => job.processes.forM fun (process, _) => Act.printLine (Raw.ofNat process)
    | some _ => Act.printLine (jobLine place true job)
    | none => Act.printLine (jobLine place false job)
  Act.modifyJobs fun jobs => jobs.filter (!·.isDone)
  return 0

/-- Refuses to move a job, which takes a terminal. -/
def move (arguments : List Raw) : Act Nat := do
  let targets ← operands arguments
  let _ ← jobOf targets.head?
  let name := match targets.head? with
    | some name => name
    | none => Raw.ofString "(null)"
  Act.fail (Raw.ofString "job " ++ name ++ Raw.ofString " not created under job control")

end Builtin

end EditorBridge.Shell
