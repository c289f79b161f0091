import EditorBridge.Proofs.Program.Ways
import EditorBridge.Session.Script

/-!
# Runs under a host

What the answers of a host say about a run, whatever the program is.

## Main statements

`Program.run_value_isSome`: a run under a host that always answers comes to a value.

`Program.Goes.eq_run`: where a host gives a request the same answer whatever went before, a way
that it answered is the run.
-/

namespace EditorBridge

namespace Host

variable {σ : Type}

/-- The host answers every request. -/
def Answers (host : Host σ) : Prop :=
  ∀ request state, (host.answer request state).1.isSome = true

/-- In some state the host gave the answer of the event. -/
def Gave (host : Host σ) (event : Event) : Prop :=
  ∃ state, (host.answer event.request state).1 = event.answer

/-- The answer to the request is the same in every state. -/
def Repeats (host : Host σ) (request : Request) : Prop :=
  ∀ first second, (host.answer request first).1 = (host.answer request second).1

end Host

/-- The requests that formatting is made of. -/
def Request.IsFormatting : Request → Prop
  | .save _ | .run _ | .replace .. | .notify _ => True
  | .confirm _ | .registerCommand _ | .registerScheme _ => False

/-- Only a process can fail to answer, and so end the program that asked. -/
def Host.Responsive {σ : Type} (host : Host σ) : Prop :=
  ∀ request state, (∀ call, request ≠ .run call) → (host.answer request state).1.isSome = true

/-- Whoever is notified takes note. -/
def Host.Hears {σ : Type} (host : Host σ) : Prop :=
  ∀ notification state, (host.answer (.notify notification) state).1 = some ()

theorem Host.Responsive.hears {σ : Type} {host : Host σ} (responsive : host.Responsive) :
    host.Hears := by
  intro notification state
  have answered := responsive (.notify notification) state nofun
  obtain ⟨_, answer⟩ := Option.isSome_iff_exists.mp answered
  exact answer

/-- Only processes went unanswered. -/
def Heeded (trace : List Event) : Prop :=
  ∀ request, (⟨request, none⟩ : Event) ∈ trace → ∃ call, request = .run call

theorem Heeded.heard {trace : List Event} (heeded : Heeded trace) :
    ∀ notification, (⟨.notify notification, none⟩ : Event) ∉ trace := by
  intro notification member
  obtain ⟨call, same⟩ := heeded _ member
  cases same

theorem Heeded.tail {event : Event} {trace : List Event} (heeded : Heeded (event :: trace)) :
    Heeded trace :=
  fun request member => heeded request (List.mem_cons_of_mem event member)

/-- What formatting asks for is answered in the same way whatever went before. -/
structure Host.Steady {σ : Type} (host : Host σ) : Prop where
  repeats : ∀ request, request.IsFormatting → host.Repeats request
  responsive : host.Responsive

/-! ### Scripts -/

theorem Script.host_responsive (script : Script) : script.host.Responsive := by
  intro request state noRun
  cases request with
  | run call => exact absurd rfl (noRun call)
  | save | replace | notify | confirm | registerCommand | registerScheme => rfl

theorem Script.host_steady (script : Script) : script.host.Steady where
  repeats request formatting first second := by
    cases request with
    | save | run | replace | notify => rfl
    | confirm | registerCommand | registerScheme => cases formatting
  responsive := script.host_responsive

/-- A script that answers every call answers every request. -/
theorem Script.host_answers (script : Script) (runs : ∀ call, (script.run call).isSome = true) :
    script.host.Answers := by
  intro request state
  cases request with
  | run call => exact runs call
  | save | replace | notify | confirm | registerCommand | registerScheme => rfl

/-! ### Runs -/

/-- The answers in the trace of a run are the host's. -/
theorem Program.run_gave {α σ : Type} (program : Program α) (host : Host σ) (state : σ) :
    ∀ event ∈ (program.run host state).trace, host.Gave event := by
  induction program generalizing state with
  | done value => exact fun event member => nomatch member
  | ask request next ih =>
    intro event member
    simp only [run] at member
    split at member
    next stopped =>
      obtain rfl := List.mem_singleton.mp member
      exact ⟨state, congrArg Prod.fst stopped⟩
    next answer later found =>
      rcases List.mem_cons.mp member with rfl | member
      · exact ⟨state, congrArg Prod.fst found⟩
      · exact ih answer later event member

/-- Under a host that answers every request a run has a value. -/
theorem Program.run_value_isSome {α σ : Type} {host : Host σ} (answers : host.Answers)
    (program : Program α) (state : σ) : (program.run host state).value.isSome = true := by
  have goes := program.run_goes host state
  cases found : (program.run host state).value with
  | some value => rfl
  | none =>
    rw [found] at goes
    -- Without a value some request went unanswered, but the host answered it.
    obtain ⟨request, member⟩ := goes.exists_unanswered
    obtain ⟨before, given⟩ := program.run_gave host state _ member
    have answered := answers request before
    rw [given] at answered
    cases answered

/-- In a run under a responsive host only processes go unanswered. -/
theorem Program.run_heeded {α σ : Type} {host : Host σ} (responsive : host.Responsive)
    (program : Program α) (state : σ) : Heeded (program.run host state).trace := by
  intro request unanswered
  by_cases isRun : ∃ call, request = .run call
  · exact isRun
  · obtain ⟨before, given⟩ := program.run_gave host state _ unanswered
    have answered := responsive request before fun call same => isRun ⟨call, same⟩
    rw [given] at answered
    cases answered

/-- Under a responsive host a run without a value asked for a process that did not answer. -/
theorem Program.run_ended {α σ : Type} {host : Host σ} (responsive : host.Responsive)
    (program : Program α) (state : σ) (ended : (program.run host state).value = none) :
    ∃ call, (⟨.run call, none⟩ : Event) ∈ (program.run host state).trace := by
  have goes := program.run_goes host state
  rw [ended] at goes
  obtain ⟨request, member⟩ := goes.exists_unanswered
  obtain ⟨call, rfl⟩ := program.run_heeded responsive state request member
  exact ⟨call, member⟩

/-- Reporting an outcome under a host that hears leaves its notification, if it has one. -/
theorem Program.run_report {σ : Type} {host : Host σ} (hears : host.Hears) (outcome : Outcome)
    (state : σ) :
    ((report outcome).run host state).value = some outcome ∧
      ((report outcome).run host state).trace =
        outcome.notification?.toList.map fun notification => ⟨.notify notification, some ()⟩ := by
  have goes := (report outcome).run_goes host state
  rcases (goes_report ..).mp goes with
    ⟨silent, trace, value⟩ | ⟨notification, answer, told, trace, value⟩
  · exact ⟨value, by simp [silent, trace]⟩
  · obtain ⟨before, given⟩ := Program.run_gave (report outcome) host state
      ⟨.notify notification, answer⟩ (by simp [trace])
    obtain rfl := (hears notification before).symm.trans given
    refine ⟨value, ?_⟩
    rw [trace, told]
    rfl

/-- A way that was answered by a host that repeats its answers is the run under that host, in
whatever state it begins. -/
theorem Program.Goes.eq_run {α σ : Type} {program : Program α} {trace : List Event}
    {ending : Option α} (goes : program.Goes trace ending) (host : Host σ)
    (gave : ∀ event ∈ trace, host.Gave event)
    (repeats : ∀ event ∈ trace, host.Repeats event.request) (state : σ) :
    trace = (program.run host state).trace ∧ ending = (program.run host state).value := by
  induction program generalizing trace state with
  | done value =>
    obtain ⟨rfl, rfl⟩ := (goes_done ..).mp goes
    exact ⟨rfl, rfl⟩
  | ask request next ih =>
    -- The way and the run have the same first answer, so they go on with the same program.
    have first : ∀ answer rest, trace = ⟨request, answer⟩ :: rest →
        (host.answer request state).1 = answer := by
      rintro answer rest rfl
      obtain ⟨before, given⟩ := gave _ List.mem_cons_self
      exact (repeats _ List.mem_cons_self state before).trans given
    rcases (goes_ask ..).mp goes with ⟨answer, rest, rfl, later⟩ | ⟨rfl, rfl⟩
    · have given := first _ _ rfl
      obtain ⟨same, value⟩ := ih answer later
        (fun event member => gave event (List.mem_cons_of_mem _ member))
        (fun event member => repeats event (List.mem_cons_of_mem _ member))
        (host.answer request state).2
      rw [Program.run]
      split
      next stopped => simp [stopped] at given
      next other later found =>
        simp only [found, Option.some.injEq] at given same value
        subst given
        exact ⟨congrArg _ same, value⟩
    · have given := first _ _ rfl
      rw [Program.run]
      split
      next stopped => exact ⟨rfl, rfl⟩
      next other later found => simp [found] at given

end EditorBridge
