import EditorBridge.Command.Install
import EditorBridge.Proofs.Command.Cleaning

/-!
# Checking the tool and asking for consent

Checking begins with the probe. What the probe says decides whether the user is asked, and the
answer of the user decides whether the tool is installed. `Checks` lists the traces that this
allows, without reference to the program.

## Main statements

`ensureInstalled_checks`: a run of checking, when none but processes fail to answer, leaves one of
these traces and ends in its outcome.
-/

namespace EditorBridge

namespace Command

/-! ### The traces of checking -/

/-- What the answer to the probe says about the tool. -/
def probed (workspace : Workspace) (interpreter : Path) (answer : Except String Output) :
    ToolStatus :=
  match (Invocation.probe interpreter workspace.tool).result answer with
  | .ok output => .ofOutput output
  | .error failure => .notInstalled failure.message

/-- The tool is missing or too old. -/
def IsWanting (status : ToolStatus) : Prop :=
  (∃ reason, status = .notInstalled reason) ∨ ∃ found minimum, status = .outdated found minimum

/-- The probe was answered, and what the answer says has led to the question. -/
structure Asked (workspace : Workspace) (interpreter : Path) (question : String)
    (front : List Event) : Prop where
  resolved : workspace.config.interpreter? = some interpreter
  wanting : ∃ answer, IsWanting (probed workspace interpreter answer) ∧
    statusVerdict workspace.tool interpreter (probed workspace interpreter answer) = .inr question ∧
    front = [⟨.run (Invocation.probe interpreter workspace.tool).call, some answer⟩]

/-- The requests of checking the tool with their answers, and the outcome they lead to. There is
none when a process did not answer. -/
inductive Checks (workspace : Workspace) : List Event → Option Outcome → Prop
  | unset :
      workspace.config.interpreter? = none →
      Checks workspace [⟨.notify ⟨.error, Error.interpreterNotFound.message⟩, some ()⟩]
        (some (.configError Error.interpreterNotFound.message))
  | unprobed {interpreter : Path} :
      workspace.config.interpreter? = some interpreter →
      Checks workspace [⟨.run (Invocation.probe interpreter workspace.tool).call, none⟩] none
  | installed {interpreter : Path} {answer : Except String Output} {version : Option Version}
      {raw message : String} :
      workspace.config.interpreter? = some interpreter →
      probed workspace interpreter answer = .installed version raw →
      statusVerdict workspace.tool interpreter (.installed version raw) =
        .inl (.succeeded message) →
      Checks workspace
        [⟨.run (Invocation.probe interpreter workspace.tool).call, some answer⟩,
          ⟨.notify ⟨.info, message⟩, some ()⟩]
        (some (.succeeded message))
  | declined {interpreter : Path} {question : String} {front : List Event} :
      Asked workspace interpreter question front →
      Checks workspace
        (front ++ [⟨.confirm question, some (.ok false)⟩,
          ⟨.notify ⟨.warning, declinedMessage workspace.tool⟩, some ()⟩])
        (some (.declined (declinedMessage workspace.tool)))
  | unasked {interpreter : Path} {question : String} {front : List Event} {error : Error} :
      Asked workspace interpreter question front →
      Checks workspace
        (front ++ [⟨.confirm question, some (.error error)⟩,
          ⟨.notify ⟨.error, error.message⟩, some ()⟩])
        (some (.ofError error))
  | agreed {interpreter : Path} {question : String} {front : List Event}
      {answer : Except String Output} {outcome : Outcome} {notification : Notification} :
      Asked workspace interpreter question front →
      outcome = installOutcome workspace interpreter
        ((Invocation.install interpreter workspace.tool).result answer) →
      outcome.notification? = some notification →
      Checks workspace
        (front ++ [⟨.confirm question, some (.ok true)⟩,
          ⟨.run (Invocation.install interpreter workspace.tool).call, some answer⟩,
          ⟨.notify notification, some ()⟩])
        (some outcome)
  | uninstalled {interpreter : Path} {question : String} {front : List Event} :
      Asked workspace interpreter question front →
      Checks workspace
        (front ++ [⟨.confirm question, some (.ok true)⟩,
          ⟨.run (Invocation.install interpreter workspace.tool).call, none⟩])
        none

/-! ### Ways of the steps -/

theorem statusVerdict_cases (tool : String) (interpreter : Path) (status : ToolStatus) :
    (∃ version raw message, status = .installed version raw ∧
      statusVerdict tool interpreter status = .inl (.succeeded message)) ∨
    ∃ question, IsWanting status ∧ statusVerdict tool interpreter status = .inr question := by
  rcases status with ⟨_ | version, raw⟩ | ⟨found, minimum⟩ | reason
  · exact .inl ⟨none, raw, _, rfl, rfl⟩
  · exact .inl ⟨some version, raw, _, rfl, rfl⟩
  · exact .inr ⟨_, .inr ⟨found, minimum, rfl⟩, rfl⟩
  · exact .inr ⟨_, .inl ⟨reason, rfl⟩, rfl⟩

theorem goes_probe {workspace : Workspace} {interpreter : Path} {trace : List Event}
    {ending : Option ToolStatus} (goes : (probe workspace interpreter).Goes trace ending) :
    ∃ answer, trace = [⟨.run (Invocation.probe interpreter workspace.tool).call, answer⟩] ∧
      ending = answer.map (probed workspace interpreter) := by
  rcases (Program.goes_invoke_bind ..).mp goes with ⟨answer, last, rfl, goesOn⟩ | ⟨rfl, rfl⟩
  · refine ⟨some answer, ?_⟩
    -- Both results of the probe end the program at once, in what it says about the tool.
    have said : (Program.done (probed workspace interpreter answer)).Goes last ending := by
      unfold probed
      cases produced : (Invocation.probe interpreter workspace.tool).result answer <;>
        rw [produced] at goesOn <;> exact goesOn
    obtain ⟨rfl, same⟩ := (Program.goes_done ..).mp said
    exact ⟨rfl, same⟩
  · exact ⟨none, rfl, rfl⟩

section

variable {trace : List Event} {ending : Option Outcome}

theorem goes_report_heard {outcome : Outcome} {notification : Notification}
    (goes : (Program.report outcome).Goes trace ending)
    (told : outcome.notification? = some notification)
    (heeded : Heeded trace) :
    trace = [⟨.notify notification, some ()⟩] ∧ ending = some outcome := by
  rcases (Program.goes_report ..).mp goes with ⟨silent, -⟩ | ⟨other, answer, same, rfl, rfl⟩
  · rw [told] at silent
    cases silent
  · obtain rfl := Option.some.inj (told.symm.trans same)
    cases answer with
    | none => exact absurd List.mem_cons_self (heeded.heard notification)
    | some answer => exact ⟨rfl, rfl⟩

theorem exists_notification_installOutcome (workspace : Workspace) (interpreter : Path)
    (result : Except ToolFailure String) :
    ∃ notification, (installOutcome workspace interpreter result).notification? =
      some notification := by
  cases result <;> exact ⟨_, rfl⟩

/-- Installing is one call, and a notification behind it when it was answered. -/
theorem goes_installWith {workspace : Workspace} {interpreter : Path}
    (goes : (installWith workspace interpreter).Goes trace ending) (heeded : Heeded trace) :
    (trace = [⟨.run (Invocation.install interpreter workspace.tool).call, none⟩] ∧
        ending = none) ∨
      ∃ answer notification,
        (installOutcome workspace interpreter
          ((Invocation.install interpreter workspace.tool).result answer)).notification? =
            some notification ∧
        trace = [⟨.run (Invocation.install interpreter workspace.tool).call, some answer⟩,
          ⟨.notify notification, some ()⟩] ∧
        ending = some (installOutcome workspace interpreter
          ((Invocation.install interpreter workspace.tool).result answer)) := by
  rcases (Program.goes_invoke_bind ..).mp goes with ⟨answer, last, rfl, reports⟩ | ended
  · obtain ⟨notification, told⟩ := exists_notification_installOutcome workspace interpreter
      ((Invocation.install interpreter workspace.tool).result answer)
    obtain ⟨rfl, ending⟩ := goes_report_heard reports told heeded.tail
    exact .inr ⟨answer, notification, told, rfl, ending⟩
  · exact .inl ended

/-- The question is put once, and the answer decides how checking ends. -/
theorem goes_asking {workspace : Workspace} {interpreter : Path} {question : String}
    {front : List Event} (asked : Asked workspace interpreter question front)
    (goes : ((Program.request (.confirm question)).bind fun
      | .ok true => installWith workspace interpreter
      | .ok false => Program.report (.declined (declinedMessage workspace.tool))
      | .error error => Program.report (.ofError error)).Goes trace ending)
    (heeded : Heeded trace) : Checks workspace (front ++ trace) ending := by
  rcases (Program.goes_request_bind ..).mp goes with ⟨consent, last, rfl, goesOn⟩ | ⟨rfl, rfl⟩
  case inr =>
    -- A question is no process, so it was answered.
    obtain ⟨call, same⟩ := heeded _ List.mem_cons_self
    cases same
  match consent with
  | .ok true =>
    rcases goes_installWith goesOn heeded.tail with
      ⟨rfl, rfl⟩ | ⟨answer, notification, told, rfl, rfl⟩
    · exact .uninstalled asked
    · exact .agreed asked rfl told
  | .ok false =>
    obtain ⟨rfl, rfl⟩ := goes_report_heard goesOn rfl heeded.tail
    exact .declined asked
  | .error error =>
    obtain ⟨rfl, rfl⟩ := goes_report_heard goesOn (Outcome.notification?_ofError error) heeded.tail
    exact .unasked asked

/-- Every way of checking on which only processes go unanswered is one of the traces listed. -/
theorem goes_ensureInstalled {workspace : Workspace}
    (goes : (ensureInstalled workspace).Goes trace ending) (heeded : Heeded trace) :
    Checks workspace trace ending := by
  unfold ensureInstalled at goes
  split at goes
  next missing =>
    obtain ⟨rfl, rfl⟩ := goes_report_heard goes rfl heeded
    exact .unset missing
  next interpreter resolved =>
    -- The probe is one event, and it ends the check when it goes unanswered.
    rcases (Program.goes_bind ..).mp goes with
      ⟨first, rfl⟩ | ⟨status, probing, last, rfl, first, goesOn⟩
    · obtain ⟨_ | answer, rfl, ending⟩ := goes_probe first
      · exact .unprobed resolved
      · cases ending
    obtain ⟨_ | answer, rfl, ending⟩ := goes_probe first
    · cases ending
    obtain rfl := Option.some.inj ending
    -- The verdict on the status is that all is well, or a question.
    rcases statusVerdict_cases workspace.tool interpreter (probed workspace interpreter answer) with
      ⟨version, raw, message, said, verdict⟩ | ⟨question, wanting, verdict⟩
    · simp only [verdict] at goesOn
      obtain ⟨rfl, rfl⟩ := goes_report_heard goesOn rfl heeded.tail
      exact .installed resolved said (said ▸ verdict)
    · simp only [verdict] at goesOn
      exact goes_asking ⟨resolved, answer, wanting, verdict, rfl⟩ goesOn heeded.tail

end

/-- A run of checking under a responsive host leaves one of the traces listed and its outcome. -/
theorem ensureInstalled_checks {σ : Type} {host : Host σ} (responsive : host.Responsive)
    (workspace : Workspace) (state : σ) :
    let run := (ensureInstalled workspace).run host state
    Checks workspace run.trace run.value :=
  goes_ensureInstalled (Program.run_goes ..) (Program.run_heeded responsive _ state)

end Command

end EditorBridge
