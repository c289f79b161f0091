import EditorBridge.Proofs.Command.Mixture

/-!
# The states of a host along a trace

A trace is more than a list of answers that the host gave at one time or another: asked for the events
one after the other, the host gives these answers and changes with them. So between any two events of a
run, or of a pool under a schedule, there is the state in which the host answered the second.

## Main statements

`Program.run_leads`, `formatAll_leads`: a run, and formatting all documents under any schedule, lead the
host along their trace.

`Host.Leads.cut`: the state at which a trace is cut.
-/

namespace EditorBridge

/-- Asked for the events one after the other, the host gives their answers and gets from the first state
to the last. -/
inductive Host.Leads {σ : Type} (host : Host σ) : σ → List Event → σ → Prop
  | refl (state : σ) : Leads host state [] state
  | step {before between after : σ} {event : Event} {events : List Event} :
      host.answer event.request before = (event.answer, between) →
      Leads host between events after → Leads host before (event :: events) after

namespace Host.Leads

variable {σ : Type} {host : Host σ} {before between after : σ}

theorem single (host : Host σ) (request : Request) (state : σ) :
    host.Leads state [⟨request, (host.answer request state).1⟩] (host.answer request state).2 :=
  .step rfl (.refl _)

theorem append {front back : List Event} (first : host.Leads before front between)
    (second : host.Leads between back after) : host.Leads before (front ++ back) after := by
  induction first with
  | refl => exact second
  | step answered _ ih => exact .step answered (ih second)

theorem exists_between {front back : List Event} (leads : host.Leads before (front ++ back) after) :
    ∃ between, host.Leads before front between ∧ host.Leads between back after := by
  induction front generalizing before with
  | nil => exact ⟨before, .refl before, leads⟩
  | cons event front ih =>
    cases leads with
    | step answered later =>
      obtain ⟨between, first, second⟩ := ih later
      exact ⟨between, .step answered first, second⟩

/-- The states before and after an event. -/
theorem cut {front back : List Event} {event : Event}
    (leads : host.Leads before (front ++ event :: back) after) :
    ∃ state next, host.Leads before front state ∧
      host.answer event.request state = (event.answer, next) ∧ host.Leads next back after := by
  obtain ⟨state, first, second⟩ := leads.exists_between
  cases second with
  | step answered later => exact ⟨state, _, first, answered, later⟩

/-- The state in which the host answered an event. -/
theorem exists_of_mem {events : List Event} (leads : host.Leads before events after) {event : Event}
    (member : event ∈ events) :
    ∃ front back state next, events = front ++ event :: back ∧ host.Leads before front state ∧
      host.answer event.request state = (event.answer, next) := by
  obtain ⟨front, back, rfl⟩ := List.append_of_mem member
  obtain ⟨state, next, first, answered, -⟩ := leads.cut
  exact ⟨front, back, state, next, rfl, first, answered⟩

end Host.Leads

/-- A run leads the host along its trace. -/
theorem Program.run_leads {α σ : Type} (host : Host σ) (program : Program α) (state : σ) :
    host.Leads state (program.run host state).trace (program.run host state).state := by
  induction program generalizing state with
  | done value => exact .refl state
  | ask request next ih =>
    have first := Host.Leads.single host request state
    unfold run
    split
    next later stopped =>
      -- Without an answer the run ends with this event.
      rw [stopped] at first
      exact first
    next answer later answered =>
      rw [answered] at first
      exact first.append (ih answer later)

namespace Command

variable {σ : Type} {host : Host σ}

namespace Pool

/-- The host of the pool was led along the trace. -/
def Led (host : Host σ) (start : σ) (pool : Pool σ) : Prop :=
  host.Leads start (pool.trace.map (·.2)) pool.state

variable {start : σ} {pool : Pool σ}

theorem Led.workerTurn (led : pool.Led host start) (index : Nat) :
    (pool.workerTurn host index).Led host start := by
  unfold Pool.workerTurn
  split
  next document request next found =>
    unfold Led
    rw [List.map_append]
    exact led.append (.single host request pool.state)
  next => exact led

theorem Led.collectorTurn (led : pool.Led host start) : (pool.collectorTurn host).Led host start := by
  unfold Pool.collectorTurn
  split
  next => exact led
  next document found =>
    -- A worker that broke off is reported for by the collector, in a run of its own.
    have reported := (Program.report (panicked document)).run_leads host pool.state
    simp only [Led, List.map_append, List.map_map, Function.comp_def, List.map_id']
    exact led.append reported
  next => exact led

theorem Led.follow (led : pool.Led host start) (schedule : List Turn) :
    (pool.follow host schedule).Led host start := by
  induction schedule generalizing pool with
  | nil => exact led
  | cons turn schedule ih =>
    cases turn with
    | worker index => exact ih (led.workerTurn index)
    | collector => exact ih led.collectorTurn

theorem Led.settle (led : pool.Led host start) : (pool.settle host).Led host start := by
  obtain ⟨schedule, settled⟩ := settle_eq_follow host pool
  exact settled ▸ led.follow schedule

end Pool

end Command

end EditorBridge
