import EditorBridge.Command.FormatAll
import EditorBridge.Proofs.Program.Hosts
import Mathlib.Data.List.Nodup
import Mathlib.Data.List.Perm.Basic

/-!
# The pool under any schedule

Workers and collector share a host and a trace, and a schedule mixes their turns. What a worker does
depends on nothing but the answers that it got, so its events are the beginning of a way of its own
document, whoever else took a turn in between. `Pool.Sound` says this of every worker, and of the
collector that it took over the first outcomes in document order and reported the panicked among
them. Every turn keeps it.

## Main statements

`Pool.sound_follow`: every schedule keeps a pool sound.

`Pool.settle_collected`: a settled pool has the outcome of every worker.

`perm_eventsOf`, `perm_turns`: a trace is, up to order, the events of those who took turns.
-/

namespace EditorBridge.Command

/-! ### The events of one who takes turns -/

/-- The events of the turns of one, in the order in which they happened. -/
def eventsOf (turn : Turn) (trace : List (Turn × Event)) : List Event :=
  (trace.filter fun entry => entry.1 = turn).map (·.2)

theorem eventsOf_append_same (turn : Turn) (trace : List (Turn × Event)) (events : List Event) :
    eventsOf turn (trace ++ events.map (turn, ·)) = eventsOf turn trace ++ events := by
  simp [eventsOf, List.filter_map, Function.comp_def]

theorem eventsOf_append_other {turn other : Turn} (different : other ≠ turn)
    (trace : List (Turn × Event)) (events : List Event) :
    eventsOf turn (trace ++ events.map (other, ·)) = eventsOf turn trace := by
  simp [eventsOf, List.filter_map, Function.comp_def, different]

/-- What holds of a trace and of further events of one turn holds of both together. -/
theorem forall_mem_append {condition : Turn × Event → Prop} {trace : List (Turn × Event)}
    {turn : Turn} {events : List Event} (before : ∀ entry ∈ trace, condition entry)
    (now : ∀ event ∈ events, condition (turn, event)) :
    ∀ entry ∈ trace ++ events.map (turn, ·), condition entry := by
  intro entry member
  rcases List.mem_append.mp member with earlier | later
  · exact before entry earlier
  · obtain ⟨event, present, rfl⟩ := List.mem_map.mp later
    exact now event present

theorem mem_of_mem_eventsOf {turn : Turn} {trace : List (Turn × Event)} {event : Event}
    (member : event ∈ eventsOf turn trace) : (turn, event) ∈ trace := by
  obtain ⟨⟨owner, event⟩, kept, rfl⟩ := List.mem_map.mp member
  obtain ⟨present, rfl⟩ : (owner, event) ∈ trace ∧ owner = turn := by simpa using kept
  exact present

/-- When the turns are those of distinct owners, the trace is their events, up to order. -/
theorem perm_eventsOf {owners : List Turn} (distinct : owners.Nodup) {trace : List (Turn × Event)}
    (owned : ∀ entry ∈ trace, entry.1 ∈ owners) :
    (trace.map (·.2)).Perm (owners.flatMap fun owner => eventsOf owner trace) := by
  induction owners generalizing trace with
  | nil =>
    obtain rfl := List.eq_nil_iff_forall_not_mem.mpr fun entry member =>
      List.not_mem_nil (owned entry member)
    exact .refl _
  | cons owner others ih =>
    obtain ⟨absent, distinct⟩ := List.nodup_cons.mp distinct
    -- Without the entries of the first owner the others keep their events.
    let remaining := trace.filter fun entry => !decide (entry.1 = owner)
    have rest : ∀ other ∈ others, eventsOf other remaining = eventsOf other trace := by
      intro other member
      have different : other ≠ owner := fun same => absent (same ▸ member)
      simp only [eventsOf, remaining, List.filter_filter]
      congr 2
      funext entry
      by_cases same : entry.1 = other
      · simp [same, different]
      · simp [same]
    have split : (trace.map (·.2)).Perm (eventsOf owner trace ++ remaining.map (·.2)) := by
      rw [eventsOf, ← List.map_append]
      exact (List.filter_append_perm _ trace).symm.map _
    have later : ∀ entry ∈ remaining, entry.1 ∈ others := by
      intro entry member
      obtain ⟨member, different⟩ := List.mem_filter.mp member
      exact (List.mem_cons.mp (owned entry member)).resolve_left (by simpa using different)
    rw [List.flatMap_cons, ← List.flatMap_congr rest]
    exact split.trans ((ih distinct later).append_left _)

/-- What is read from a trace is, up to order, what is read from the turns of each worker and from
those of the collector. -/
theorem perm_turns {α : Type} (read : Event → Option α) {count : Nat}
    {trace : List (Turn × Event)}
    (owned : ∀ entry ∈ trace, entry.1 = .collector ∨ ∃ index < count, entry.1 = .worker index) :
    ((trace.map (·.2)).filterMap read).Perm
      (((List.range count).flatMap fun index => (eventsOf (.worker index) trace).filterMap read) ++
        (eventsOf .collector trace).filterMap read) := by
  -- Every entry belongs to the collector or to one of the workers, and to no two of them.
  let owners := (List.range count).map Turn.worker
  have distinct : (.collector :: owners).Nodup := by
    refine List.nodup_cons.mpr ⟨by simp [owners], ?_⟩
    exact List.Nodup.map (fun first second same => Turn.worker.inj same) List.nodup_range
  have members : ∀ entry ∈ trace, entry.1 ∈ Turn.collector :: owners := by
    intro entry member
    rcases owned entry member with same | ⟨index, inside, same⟩
    · exact same ▸ List.mem_cons_self
    · refine List.mem_cons_of_mem _ (List.mem_map.mpr ⟨index, ?_, same.symm⟩)
      exact List.mem_range.mpr inside
  refine ((perm_eventsOf distinct members).filterMap read).trans ?_
  rw [List.flatMap_cons, List.filterMap_append, List.filterMap_flatMap, List.flatMap_map]
  exact List.perm_append_comm

/-! ### Workers -/

/-- What the collector reports about a document: an error when its worker came to no outcome. -/
def panicReport (document : Document) : Option Outcome → List Event
  | some _ => []
  | none =>
    [⟨.notify ⟨.error, "Formatting \"" ++ document.displayName ++ "\" panicked"⟩, some ()⟩]

namespace Worker

/-- The outcome that the collector takes over, once the worker has ended. -/
def outcome? (worker : Worker) : Option Outcome :=
  match worker.program? with
  | some (.done outcome) => some outcome
  | some (.ask ..) => none
  | none => some (panicked worker.document)

/-- The outcome that the worker came to. -/
def value? (worker : Worker) : Option Outcome :=
  match worker.program? with
  | some (.done outcome) => some outcome
  | _ => none

/-- What the collector reports when it takes over the outcome. -/
def collectorEvents (worker : Worker) : List Event := panicReport worker.document worker.value?

theorem asks_of_outcome?_eq_none {worker : Worker} (asking : worker.outcome? = none) :
    ∃ request next, worker = ⟨worker.document, some (.ask request next)⟩ := by
  obtain ⟨document, _ | _ | ⟨request, next⟩⟩ := worker
  · cases asking
  · cases asking
  · exact ⟨request, next, rfl⟩

/-- A worker that has ended came to an outcome, or to nothing. -/
theorem program?_of_ended {worker : Worker} (ended : worker.outcome? ≠ none) :
    worker.program? = worker.value?.map .done ∧
      worker.outcome? = some (worker.value?.getD (panicked worker.document)) := by
  obtain ⟨document, _ | _ | _⟩ := worker
  · exact ⟨rfl, rfl⟩
  · exact ⟨rfl, rfl⟩
  · exact absurd rfl ended

theorem gave_of_mem_collectorEvents {σ : Type} {host : Host σ} (hears : host.Hears) (state : σ)
    {worker : Worker} {event : Event} (member : event ∈ worker.collectorEvents) :
    host.Gave event := by
  unfold collectorEvents panicReport at member
  split at member
  · cases member
  · obtain rfl := List.mem_singleton.mp member
    exact ⟨state, hears _ state⟩

end Worker

namespace Pool

variable {σ : Type} {host : Host σ} {workspace : Workspace} {pool : Pool σ}

/-- No worker is asking at the index. -/
def Ended (pool : Pool σ) (index : Nat) : Prop :=
  ∀ worker, pool.workers[index]? = some worker → worker.outcome? ≠ none

/-- What holds of a pool whatever turns were taken. -/
structure Sound (host : Host σ) (workspace : Workspace) (pool : Pool σ) : Prop where
  documents : pool.workers.map Worker.document = workspace.documents
  /-- Every worker went its own way, with the answers that its own turns got. -/
  progress : ∀ index worker, pool.workers[index]? = some worker →
    (formatDocument workspace worker.document true).After
      (eventsOf (.worker index) pool.trace) worker.program?
  /-- The outcomes collected are those of the first workers. -/
  collected : pool.collected.map some =
    (pool.workers.take pool.collected.length).map Worker.outcome?
  reported : eventsOf .collector pool.trace =
    (pool.workers.take pool.collected.length).flatMap Worker.collectorEvents
  owned : ∀ entry ∈ pool.trace,
    entry.1 = .collector ∨ ∃ index < pool.workers.length, entry.1 = .worker index
  gave : ∀ entry ∈ pool.trace, host.Gave entry.2

theorem sound_start (state : σ) : (Pool.start workspace state).Sound host workspace where
  documents := by simp [start, Function.comp_def]
  progress index worker found := by
    obtain ⟨document, -, rfl⟩ : ∃ document, workspace.documents[index]? = some document ∧
        ⟨document, some (formatDocument workspace document true)⟩ = worker := by
      simpa [start] using found
    exact .start _
  collected := rfl
  reported := rfl
  owned entry member := nomatch member
  gave entry member := nomatch member

/-- A worker that is still asking has not been collected. -/
theorem Sound.collected_le (sound : pool.Sound host workspace) {index : Nat} {worker : Worker}
    (found : pool.workers[index]? = some worker) (asking : worker.outcome? = none) :
    pool.collected.length ≤ index := by
  -- What is collected at the index is the outcome of its worker, and this one has none.
  by_contra early
  have inside : index < pool.collected.length := Nat.lt_of_not_le early
  have same := congrArg (·[index]?) sound.collected
  simp [inside, found, asking] at same

theorem Sound.workers_length (sound : pool.Sound host workspace) :
    pool.workers.length = workspace.documents.length := by
  rw [← sound.documents, List.length_map]

/-- There are no more outcomes than workers. -/
theorem Sound.collected_length_le (sound : pool.Sound host workspace) :
    pool.collected.length ≤ pool.workers.length := by
  have same := congrArg List.length sound.collected
  simp only [List.length_map, List.length_take] at same
  omega

/-! ### Turns -/

/-- Putting another worker in the place of one changes nothing in what the two agree on. -/
theorem map_set_eq {α : Type} {read : Worker → α} {workers : List Worker} {index : Nat}
    {worker other : Worker} (found : workers[index]? = some worker)
    (same : read other = read worker) : (workers.set index other).map read = workers.map read := by
  obtain ⟨inside, rfl⟩ := List.getElem?_eq_some_iff.mp found
  rw [List.map_set, same, ← List.getElem_map read (h := by simpa using inside),
    List.set_getElem_self]

/-- A worker that is asking gets the answer to its request. -/
theorem workerTurn_eq (host : Host σ) {index : Nat} {document : Document} {request : Request}
    {next : request.Answer → Program Outcome}
    (found : pool.workers[index]? = some ⟨document, some (.ask request next)⟩) :
    pool.workerTurn host index =
      { pool with
        state := (host.answer request pool.state).2
        workers :=
          pool.workers.set index ⟨document, (host.answer request pool.state).1.map next⟩
        trace := pool.trace ++
          [⟨request, (host.answer request pool.state).1⟩].map (.worker index, ·) } := by
  simp [workerTurn, found]

/-- A worker that has ended does nothing more. -/
theorem workerTurn_eq_self {index : Nat} (ended : pool.Ended index) :
    pool.workerTurn host index = pool := by
  unfold workerTurn
  split
  next found => exact absurd rfl (ended _ found)
  next => rfl

theorem sound_workerTurn (sound : pool.Sound host workspace) (index : Nat) :
    (pool.workerTurn host index).Sound host workspace := by
  by_cases ended : pool.Ended index
  · rw [workerTurn_eq_self ended]
    exact sound
  obtain ⟨worker, found, asking⟩ : ∃ worker, pool.workers[index]? = some worker ∧
      worker.outcome? = none := by
    simpa [Ended] using ended
  -- The collector has not come to a worker that is asking, so nothing of its changes here.
  have uncollected := sound.collected_le found asking
  obtain ⟨inside, -⟩ := List.getElem?_eq_some_iff.mp found
  obtain ⟨request, next, same⟩ := Worker.asks_of_outcome?_eq_none asking
  rw [same] at found
  rw [workerTurn_eq host found]
  exact
    { documents := by
        rw [← sound.documents]
        exact map_set_eq found rfl
      progress := by
        intro other later foundLater
        by_cases same : index = other
        · subst same
          obtain rfl : ⟨worker.document, _⟩ = later := by simpa [inside] using foundLater
          rw [eventsOf_append_same]
          exact (sound.progress index _ found).next (host.answer request pool.state).1
        · rw [List.getElem?_set_ne same] at foundLater
          rw [eventsOf_append_other (by simpa using same)]
          exact sound.progress other later foundLater
      collected := by
        rw [List.take_set_of_le uncollected]
        exact sound.collected
      reported := by
        rw [List.take_set_of_le uncollected, eventsOf_append_other (by simp)]
        exact sound.reported
      owned := by
        rw [List.length_set]
        exact forall_mem_append sound.owned fun _ _ => .inr ⟨index, inside, rfl⟩
      gave := by
        refine forall_mem_append sound.gave fun event member => ?_
        obtain rfl := List.mem_singleton.mp member
        exact ⟨pool.state, rfl⟩ }

/-- The collector takes over the outcome of a worker that has ended. -/
theorem collectorTurn_eq (hears : host.Hears) {worker : Worker} {outcome : Outcome}
    (found : pool.workers[pool.collected.length]? = some worker)
    (ended : worker.outcome? = some outcome) :
    ∃ state, pool.collectorTurn host =
      { pool with
        state := state
        collected := pool.collected ++ [outcome]
        trace := pool.trace ++ worker.collectorEvents.map (.collector, ·) } := by
  obtain ⟨document, _ | _ | _⟩ := worker
  · cases ended
    have told := (Program.run_report hears (panicked document) pool.state).2
    refine ⟨((Program.report (panicked document)).run host pool.state).state, ?_⟩
    simp only [collectorTurn, found, told]
    rfl
  · cases ended
    refine ⟨pool.state, ?_⟩
    simp [collectorTurn, found, Worker.collectorEvents, Worker.value?, panicReport]
  · cases ended

/-- The collector waits for a worker that is still asking. -/
theorem collectorTurn_eq_self
    (asking : ∀ worker, pool.workers[pool.collected.length]? = some worker →
      worker.outcome? = none) : pool.collectorTurn host = pool := by
  unfold collectorTurn
  split
  next found => cases asking _ found
  next found => cases asking _ found
  next => rfl

theorem sound_collectorTurn (hears : host.Hears) (sound : pool.Sound host workspace) :
    (pool.collectorTurn host).Sound host workspace := by
  by_cases asking : ∀ worker, pool.workers[pool.collected.length]? = some worker →
      worker.outcome? = none
  · rw [collectorTurn_eq_self asking]
    exact sound
  obtain ⟨worker, found, ended⟩ : ∃ worker,
      pool.workers[pool.collected.length]? = some worker ∧ worker.outcome? ≠ none := by
    simpa using asking
  obtain ⟨outcome, ended⟩ := Option.ne_none_iff_exists'.mp ended
  obtain ⟨state, turned⟩ := collectorTurn_eq hears found ended
  rw [turned]
  -- One outcome more stands for one worker more.
  have oneMore : pool.workers.take (pool.collected ++ [outcome]).length =
      pool.workers.take pool.collected.length ++ [worker] := by
    rw [List.length_append, List.length_singleton, List.take_add_one, found]
    rfl
  exact
    { documents := sound.documents
      progress := by
        intro index other foundOther
        rw [eventsOf_append_other (by simp)]
        exact sound.progress index other foundOther
      collected := by
        rw [oneMore, List.map_append, List.map_append, sound.collected]
        simp [ended]
      reported := by
        rw [oneMore, List.flatMap_append, eventsOf_append_same, sound.reported]
        simp
      owned := forall_mem_append sound.owned fun _ _ => .inl rfl
      gave := forall_mem_append sound.gave fun _ reported =>
        Worker.gave_of_mem_collectorEvents hears pool.state reported }

/-! ### Runs -/

/-- Every schedule keeps a pool sound. -/
theorem sound_follow (hears : host.Hears) (sound : pool.Sound host workspace)
    (schedule : List Turn) : (pool.follow host schedule).Sound host workspace := by
  induction schedule generalizing pool with
  | nil => exact sound
  | cons turn schedule ih =>
    cases turn with
    | worker index => exact ih (sound_workerTurn sound index)
    | collector => exact ih (sound_collectorTurn hears sound)

theorem follow_append (pool : Pool σ) (first second : List Turn) :
    pool.follow host (first ++ second) = (pool.follow host first).follow host second :=
  List.foldl_append

/-- A worker that asks once finishes as if it had had its turn before. -/
theorem finishWorker_eq_workerTurn {index : Nat} {document : Document} {request : Request}
    {next : request.Answer → Program Outcome}
    (found : pool.workers[index]? = some ⟨document, some (.ask request next)⟩) :
    pool.finishWorker host index = (pool.workerTurn host index).finishWorker host index := by
  obtain ⟨inside, here⟩ := List.getElem?_eq_some_iff.mp found
  rw [workerTurn_eq host found]
  rcases answered : host.answer request pool.state with ⟨_ | answer, later⟩
  · simp [finishWorker, inside, here, Program.run, answered]
  · simp [finishWorker, inside, here, Program.run, answered]

/-- Letting a worker finish is giving it turn after turn. -/
theorem finishWorker_eq_follow (host : Host σ) (pool : Pool σ) (index : Nat) :
    ∃ schedule, pool.finishWorker host index = pool.follow host schedule := by
  rcases found : pool.workers[index]? with _ | ⟨document, _ | program⟩
  · exact ⟨[], by simp [finishWorker, found, follow]⟩
  · exact ⟨[], by simp [finishWorker, found, follow]⟩
  -- By induction on what is left of the worker: each of its requests is one turn.
  induction program generalizing pool with
  | done outcome =>
    obtain ⟨inside, here⟩ := List.getElem?_eq_some_iff.mp found
    have unchanged : pool.workers.set index pool.workers[index] = pool.workers :=
      List.set_getElem_self inside
    rw [here] at unchanged
    exact ⟨[], by simp [finishWorker, found, Program.run, unchanged, follow]⟩
  | ask request next ih =>
    rw [finishWorker_eq_workerTurn found]
    obtain ⟨inside, -⟩ := List.getElem?_eq_some_iff.mp found
    have turned := workerTurn_eq host found
    rcases answered : (host.answer request pool.state).1 with _ | answer
    · have stopped : (pool.workerTurn host index).workers[index]? = some ⟨document, none⟩ := by
        simp [turned, inside, answered]
      exact ⟨[.worker index], by simp [finishWorker, stopped, follow, turn]⟩
    · have goesOn : (pool.workerTurn host index).workers[index]? =
          some ⟨document, some (next answer)⟩ := by
        simp [turned, inside, answered]
      obtain ⟨schedule, followed⟩ := ih answer (pool.workerTurn host index) goesOn
      exact ⟨.worker index :: schedule, followed⟩

theorem foldl_finishWorker_eq_follow (host : Host σ) (indices : List Nat) (pool : Pool σ) :
    ∃ schedule, indices.foldl (finishWorker host) pool = pool.follow host schedule := by
  induction indices generalizing pool with
  | nil => exact ⟨[], rfl⟩
  | cons index indices ih =>
    obtain ⟨first, finished⟩ := finishWorker_eq_follow host pool index
    obtain ⟨others, followed⟩ := ih (pool.finishWorker host index)
    refine ⟨first ++ others, ?_⟩
    rw [List.foldl_cons, followed, finished, follow_append]

/-- Settling a pool is following a schedule. -/
theorem settle_eq_follow (host : Host σ) (pool : Pool σ) :
    ∃ schedule, pool.settle host = pool.follow host schedule := by
  obtain ⟨schedule, finished⟩ :=
    foldl_finishWorker_eq_follow host (List.range pool.workers.length) pool
  refine ⟨schedule ++ (List.range pool.workers.length).map fun _ => .collector, ?_⟩
  simp only [settle, finished, follow_append]
  simp only [follow, List.foldl_map]
  rfl

theorem sound_settle (hears : host.Hears) (sound : pool.Sound host workspace) :
    (pool.settle host).Sound host workspace := by
  obtain ⟨schedule, settled⟩ := settle_eq_follow host pool
  exact settled ▸ sound_follow hears sound schedule

/-! ### The end -/

theorem finishWorker_ended (pool : Pool σ) (index : Nat) :
    (pool.finishWorker host index).Ended index := by
  unfold finishWorker
  split
  next document program found =>
    intro worker later
    obtain ⟨inside, -⟩ := List.getElem?_eq_some_iff.mp found
    rw [List.getElem?_set_self inside, Option.some.injEq] at later
    subst later
    cases (program.run host pool.state).value <;> simp [Worker.outcome?]
  next unfinished =>
    rintro ⟨document, _ | program⟩ found
    · simp [Worker.outcome?]
    · exact absurd found (unfinished document program)

/-- Letting one worker finish does not set another one going. -/
theorem Ended.finishWorker {other : Nat} (ended : pool.Ended other) (index : Nat) :
    (pool.finishWorker host index).Ended other := by
  by_cases same : index = other
  · exact same ▸ finishWorker_ended pool index
  · unfold Pool.finishWorker
    split
    next => simpa only [Ended, List.getElem?_set_ne same] using ended
    next => exact ended

theorem foldl_finishWorker_ended (indices : List Nat) {index : Nat}
    (finished : index ∈ indices ∨ pool.Ended index) :
    (indices.foldl (finishWorker host) pool).Ended index := by
  induction indices generalizing pool with
  | nil => exact finished.resolve_left List.not_mem_nil
  | cons first indices ih =>
    refine ih ?_
    rcases finished with member | ended
    · rcases List.mem_cons.mp member with rfl | member
      · exact .inr (finishWorker_ended pool index)
      · exact .inl member
    · exact .inr (ended.finishWorker first)

/-- When no worker is asking, each turn of the collector brings one outcome, as long as there is
one to bring. -/
theorem foldl_collectorTurn (hears : host.Hears) (ended : ∀ index, pool.Ended index)
    (turns : List Nat) :
    min pool.workers.length (pool.collected.length + turns.length) ≤
      (turns.foldl (fun pool _ => pool.collectorTurn host) pool).collected.length := by
  induction turns generalizing pool with
  | nil => exact Nat.min_le_right _ _
  | cons turn turns ih =>
    rw [List.foldl_cons]
    -- Either all outcomes are there and nothing changes, or the turn brings the next one.
    rcases found : pool.workers[pool.collected.length]? with _ | worker
    · have waits : pool.collectorTurn host = pool :=
        collectorTurn_eq_self fun worker present => by simp [found] at present
      have beyond := List.getElem?_eq_none_iff.mp found
      have kept := ih ended
      rw [waits]
      omega
    · obtain ⟨outcome, brought⟩ := Option.ne_none_iff_exists'.mp (ended _ worker found)
      obtain ⟨state, turned⟩ := collectorTurn_eq hears found brought
      have later : ∀ index, (pool.collectorTurn host).Ended index := by
        rw [turned]
        exact ended
      have collected := ih later
      simp only [turned, List.length_append, List.length_singleton] at collected ⊢
      rw [List.length_cons]
      omega

/-- A settled pool has the outcome of every worker. -/
theorem settle_collected (hears : host.Hears) (sound : pool.Sound host workspace) :
    (pool.settle host).collected.length = (pool.settle host).workers.length := by
  have same : ∀ {later : Pool σ}, later.Sound host workspace →
      later.workers.length = pool.workers.length := fun later =>
    later.workers_length.trans sound.workers_length.symm
  obtain ⟨schedule, finished⟩ :=
    foldl_finishWorker_eq_follow host (List.range pool.workers.length) pool
  have soundThen := finished ▸ sound_follow hears sound schedule
  -- When all workers have finished, none is asking, and so every turn of the collector counts.
  have ended : ∀ index,
      ((List.range pool.workers.length).foldl (finishWorker host) pool).Ended index := by
    intro index
    by_cases inside : index < pool.workers.length
    · exact foldl_finishWorker_ended _ (.inl (List.mem_range.mpr inside))
    · intro worker found
      obtain ⟨within, -⟩ := List.getElem?_eq_some_iff.mp found
      exact absurd (same soundThen ▸ within) inside
  have collected := foldl_collectorTurn hears ended (List.range pool.workers.length)
  have soundNow := sound_settle hears sound
  have most := soundNow.collected_length_le
  rw [same soundThen, List.length_range] at collected
  rw [same soundNow] at most ⊢
  have enough : pool.workers.length ≤ (pool.settle host).collected.length :=
    Nat.le_trans (Nat.le_min.mpr ⟨Nat.le_refl _, Nat.le_add_left ..⟩) collected
  exact Nat.le_antisymm most enough

/-- What is left of a pool when all work is done. -/
structure Settled (host : Host σ) (workspace : Workspace) (pool : Pool σ) : Prop where
  documents : pool.workers.map Worker.document = workspace.documents
  /-- Every worker went its way to the end. -/
  goes : ∀ index worker, pool.workers[index]? = some worker →
    (formatDocument workspace worker.document true).Goes
      (eventsOf (.worker index) pool.trace) worker.value?
  collected : pool.collected =
    pool.workers.map fun worker => worker.value?.getD (panicked worker.document)
  reported : eventsOf .collector pool.trace = pool.workers.flatMap Worker.collectorEvents
  owned : ∀ entry ∈ pool.trace,
    entry.1 = .collector ∨ ∃ index < pool.workers.length, entry.1 = .worker index
  gave : ∀ entry ∈ pool.trace, host.Gave entry.2

theorem settled_settle (hears : host.Hears) (sound : pool.Sound host workspace) :
    (pool.settle host).Settled host workspace := by
  have all := settle_collected hears sound
  have later := sound_settle hears sound
  generalize pool.settle host = pool at all later
  have collected : pool.collected.map some = pool.workers.map Worker.outcome? := by
    rw [later.collected, all, List.take_length]
  -- All outcomes are there, so no worker can be without one.
  have ended : ∀ worker ∈ pool.workers, worker.outcome? ≠ none := by
    intro worker member missing
    have present : none ∈ pool.collected.map some := by
      rw [collected, ← missing]
      exact List.mem_map_of_mem member
    simp at present
  exact
    { documents := later.documents
      goes := by
        intro index worker found
        have stopped := ended worker (List.mem_of_getElem? found)
        have progress := later.progress index worker found
        rw [(Worker.program?_of_ended stopped).1] at progress
        exact progress
      collected := by
        refine (List.map_inj_right fun _ _ => Option.some.inj).mp ?_
        rw [collected, List.map_map]
        exact List.map_congr_left fun worker member =>
          (Worker.program?_of_ended (ended worker member)).2
      reported := by
        rw [later.reported, all, List.take_length]
      owned := later.owned
      gave := later.gave }

/-- What is read from the trace of a settled pool is, up to order, what is read from the shares of
the workers and from the reports of the collector. -/
theorem Settled.perm_shares {α : Type} (settled : pool.Settled host workspace)
    (read : Event → Option α) (share : Worker → List α)
    (reads : ∀ index worker, pool.workers[index]? = some worker →
      (eventsOf (.worker index) pool.trace).filterMap read = share worker) :
    ((pool.trace.map (·.2)).filterMap read).Perm
      (pool.workers.flatMap fun worker =>
        share worker ++ worker.collectorEvents.filterMap read) := by
  have shares : ((List.range pool.workers.length).flatMap fun index =>
      (eventsOf (.worker index) pool.trace).filterMap read) = pool.workers.flatMap share := by
    rw [List.flatMap_def, List.flatMap_def]
    congr 1
    refine List.ext_getElem (by simp) fun index _ inside => ?_
    rw [List.length_map] at inside
    simp [reads index _ (List.getElem?_eq_getElem inside)]
  refine (perm_turns read settled.owned).trans ?_
  rw [shares, settled.reported, List.filterMap_flatMap]
  exact List.flatMap_append_perm ..

end Pool

end EditorBridge.Command
