import EditorBridge.Command.Activate
import EditorBridge.Proofs.Command.Pool
import EditorBridge.Proofs.Command.Requests

/-!
# What commands tell the user

A program is silent when no way of it notifies, and it tells what its value says when every way
notifies of that and of nothing else. Silent parts in front change nothing, so a command tells what
its outcome says when each of its ends is one report.

## Main statements

`format_tells`, `formatSaved_tells`, `install_tells`, `ensureInstalled_tells`: a command with an
outcome tells the notification of that outcome.

`openOverview_tells`: opening an overview tells the error when it gives no content.

`formatAll_tells`: formatting all documents tells the notifications of its outcomes, in some order.
-/

namespace EditorBridge

namespace Program

variable {α β : Type} {told : α → List Notification}

/-- Nothing is told to the user. -/
def Silent (program : Program α) : Prop := program.Always (·.notification? = none)

/-- The user is told what the value says, and nothing when there is no value. The ways on which a
notification went unheard are left out. -/
def Tells (told : α → List Notification) (program : Program α) : Prop :=
  ∀ trace ending, program.Goes trace ending →
    (∀ notification, (⟨.notify notification, none⟩ : Event) ∉ trace) →
    trace.filterMap Event.notification? = (ending.map told).getD []

theorem Silent.nothing_told {program : Program α} (silent : program.Silent) {trace : List Event}
    {ending : Option α} (goes : program.Goes trace ending) :
    trace.filterMap Event.notification? = [] :=
  List.filterMap_eq_nil_iff.mpr (silent trace ending goes)

theorem Silent.tells {program : Program α} (silent : program.Silent) :
    program.Tells fun _ => [] := by
  intro trace ending goes heard
  rw [silent.nothing_told goes]
  cases ending <;> rfl

theorem silent_invoke (invocation : Invocation) : (invoke invocation).Silent :=
  always_invoke fun _ => rfl

theorem tells_done {value : α} (means : told value = []) : (done value).Tells told := by
  intro trace ending goes heard
  obtain ⟨rfl, rfl⟩ := (goes_done ..).mp goes
  exact means.symm

theorem tells_report {outcome : Outcome} {told : Outcome → List Notification}
    (means : told outcome = outcome.notification?.toList) : (report outcome).Tells told := by
  intro trace ending goes heard
  rcases (goes_report ..).mp goes with ⟨silent, rfl, rfl⟩ | ⟨notification, answer, same, rfl, rfl⟩
  · simp [means, silent]
  · cases answer with
    | none => exact absurd List.mem_cons_self (heard notification)
    | some answer => simp [means, same, Event.notification?]

/-- What comes behind a silent part says what is told. -/
theorem tells_bind {told : β → List Notification} {first : Program α} {next : α → Program β}
    (silent : first.Silent) (tells : ∀ value, (next value).Tells told) :
    (first.bind next).Tells told := by
  intro trace ending goes heard
  rcases (goes_bind ..).mp goes with ⟨first, rfl⟩ | ⟨value, front, back, rfl, first, later⟩
  · exact silent.nothing_told first
  · rw [List.filterMap_append, silent.nothing_told first, List.nil_append]
    exact tells value back ending later fun notification member =>
      heard notification (List.mem_append_right front member)

/-- Giving the value another form tells nothing more. -/
theorem tells_bind_done {first : Program α} (tells : first.Tells told) {form : α → β}
    {retold : β → List Notification} (means : ∀ value, retold (form value) = told value) :
    (first.bind fun value => .done (form value)).Tells retold := by
  intro trace ending goes heard
  rcases (goes_bind ..).mp goes with ⟨first, rfl⟩ | ⟨value, front, back, rfl, first, later⟩
  · exact tells trace none first heard
  · obtain ⟨rfl, rfl⟩ := (goes_done ..).mp later
    rw [List.append_nil] at heard ⊢
    exact (tells front (some value) first heard).trans (means value).symm

/-- A run under a host that hears tells what its value says. -/
theorem Tells.run {program : Program α} (tells : program.Tells told) {σ : Type} {host : Host σ}
    (hears : host.Hears) (state : σ) :
    (program.run host state).trace.filterMap Event.notification? =
      ((program.run host state).value.map told).getD [] := by
  refine tells _ _ (program.run_goes host state) fun notification member => ?_
  obtain ⟨before, given⟩ := program.run_gave host state _ member
  cases (hears notification before).symm.trans given

end Program

namespace Outcome

/-- The notifications of an outcome: one, or none when nothing was done. -/
def told (outcome : Outcome) : List Notification := outcome.notification?.toList

theorem notification?_eq_none_iff (outcome : Outcome) :
    outcome.notification? = none ↔ outcome = .skipped := by
  cases outcome <;> simp [notification?]

end Outcome

namespace Command

open Program

/-! ### Commands with an outcome -/

theorem silent_clean (workspace : Workspace) (document : Document) (save : Bool) :
    (clean workspace document save).Silent :=
  always_clean (fun _ _ => rfl) (fun _ _ => rfl) fun _ _ _ => rfl

theorem formatDocument_tells (workspace : Workspace) (document : Document) (save : Bool) :
    (formatDocument workspace document save).Tells Outcome.told :=
  tells_bind (silent_clean workspace document save) fun _ => tells_report rfl

theorem format_tells (workspace : Workspace) : (format workspace).Tells Outcome.told := by
  unfold format
  split
  next => exact tells_done rfl
  next document _ => exact formatDocument_tells workspace document true

theorem formatSaved_tells (workspace : Workspace) (document : Document) :
    (formatSaved workspace document).Tells Outcome.told := by
  unfold formatSaved
  split
  next => exact formatDocument_tells workspace document false
  next => exact tells_done rfl

theorem silent_probe (workspace : Workspace) (interpreter : Path) :
    (probe workspace interpreter).Silent :=
  always_probe fun _ => rfl

theorem installWith_tells (workspace : Workspace) (interpreter : Path) :
    (installWith workspace interpreter).Tells Outcome.told :=
  tells_bind (silent_invoke _) fun _ => tells_report rfl

theorem install_tells (workspace : Workspace) : (install workspace).Tells Outcome.told := by
  unfold install
  split
  next => exact tells_report rfl
  next interpreter _ => exact installWith_tells workspace interpreter

theorem ensureInstalled_tells (workspace : Workspace) :
    (ensureInstalled workspace).Tells Outcome.told := by
  unfold ensureInstalled
  split
  next => exact tells_report rfl
  next interpreter _ =>
    refine tells_bind (silent_probe workspace interpreter) fun status => ?_
    split
    next => exact tells_report rfl
    next question _ =>
      refine tells_bind (always_request fun _ => rfl) fun answer => ?_
      split
      next => exact installWith_tells workspace interpreter
      next => exact tells_report rfl
      next => exact tells_report rfl

/-! ### Overviews -/

theorem silent_render (workspace : Workspace) (source : Path) :
    (render workspace source).Silent :=
  always_render fun _ _ => rfl

theorem silent_provide (workspace : Workspace) (uri : String) :
    (provide workspace uri).Silent := by
  unfold provide
  split
  next => exact always_done _
  next uri _ => exact silent_render workspace uri.source

/-- What the user is told when an overview was opened: why there is no content. -/
def overviewTold : Option String → List Notification
  | some _ => []
  | none => [⟨.error, Error.interpreterNotFound.message⟩]

theorem openOverview_tells (workspace : Workspace) (target : String) :
    (openOverview workspace target).Tells overviewTold := by
  unfold openOverview render
  split
  next =>
    let error : Error := .interpreterNotFound
    have tells : (report (.ofError error)).Tells fun _ => Outcome.told (.ofError error) :=
      tells_report rfl
    exact tells_bind_done tells fun _ => rfl
  next interpreter _ =>
    -- Of the two ends of the command only the one with content is left.
    let invocation := rendering workspace interpreter (overviewSource target)
    have tells : ((invoke invocation).bind fun result =>
        .done (some (overviewContent result))).Tells overviewTold :=
      tells_bind (silent_invoke invocation) fun _ => tells_done rfl
    exact tells

/-! ### All documents -/

/-- A pool whose work is done told the notifications of its outcomes. -/
theorem Pool.Settled.perm_told {σ : Type} {host : Host σ} {workspace : Workspace} {pool : Pool σ}
    (settled : pool.Settled host workspace) (hears : host.Hears) :
    ((pool.trace.map (·.2)).filterMap Event.notification?).Perm
      (pool.collected.flatMap Outcome.told) := by
  have shares := settled.perm_shares Event.notification?
    (fun worker => (worker.value?.map Outcome.told).getD []) fun index worker found => by
      refine formatDocument_tells workspace worker.document true _ _
        (settled.goes index worker found) fun notification member => ?_
      obtain ⟨before, given⟩ := settled.gave _ (mem_of_mem_eventsOf member)
      cases (hears notification before).symm.trans given
  rw [settled.collected, List.flatMap_map]
  refine shares.trans (.of_eq (List.flatMap_congr fun worker _ => ?_))
  -- Either the worker told its outcome, or the collector told that it panicked.
  rw [Worker.collectorEvents]
  cases worker.value? with
  | none => rfl
  | some outcome => exact List.append_nil _

/-- Formatting all documents tells the notifications of its outcomes, in an order that the schedule
decides. -/
theorem formatAll_tells {σ : Type} {host : Host σ} (hears : host.Hears) (schedule : List Turn)
    (workspace : Workspace) (state : σ) :
    ∃ outcomes, (formatAll host schedule workspace state).value = some outcomes ∧
      ((formatAll host schedule workspace state).trace.filterMap Event.notification?).Perm
        (outcomes.flatMap Outcome.told) := by
  have started : (Pool.start workspace state).Sound host workspace := Pool.sound_start state
  have settled := Pool.settled_settle hears (Pool.sound_follow hears started schedule)
  exact ⟨_, rfl, settled.perm_told hears⟩

/-! ### Activation -/

theorem always_requestEach {condition : Event → Prop} {requests : List Request}
    (holds : ∀ request ∈ requests, ∀ answer, condition ⟨request, answer⟩) :
    (requestEach requests).Always condition := by
  induction requests with
  | nil => exact always_done ()
  | cons request requests ih =>
    have first : (Program.request request).Always condition :=
      always_request (holds request List.mem_cons_self)
    have rest := ih fun request member => holds request (List.mem_cons_of_mem _ member)
    exact always_bind first fun _ => rest

/-- Activation registers commands and schemes, and does nothing else. -/
theorem always_activate {condition : Event → Prop}
    (commands : ∀ id answer, condition ⟨.registerCommand id, answer⟩)
    (schemes : ∀ scheme answer, condition ⟨.registerScheme scheme, answer⟩) :
    activate.Always condition := by
  refine always_requestEach fun request member answer => ?_
  rcases List.mem_append.mp member with command | scheme
  · obtain ⟨id, -, rfl⟩ := List.mem_map.mp command
    exact commands id answer
  · obtain rfl := List.mem_singleton.mp scheme
    exact schemes _ answer

theorem silent_activate : activate.Silent := always_activate (fun _ _ => rfl) fun _ _ => rfl

end Command

end EditorBridge
