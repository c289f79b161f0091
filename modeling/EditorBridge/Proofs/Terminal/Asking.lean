import EditorBridge.Proofs.Command.Telling
import EditorBridge.Terminal.CommandLine

/-!
# Operations with a user at the terminal

A terminal whose questions are not answered with yes beforehand declines them, because nobody sits in
front of it. With a user the answer can be anything, and asking can fail. The operations run under
such a terminal as they run under the one without a user, so what holds with every user holds in
particular without one.

## Main statements

`Operation.performAsking_absent`: without a user an operation is performed as it always was.

`Operation.value_performUnder`, `Operation.notifications_performUnder`: before its command an
operation reports the files that it could not open, and nothing else.
-/

namespace EditorBridge

namespace Terminal

theorem hostAsking_absent (terminal : Terminal) (runner : Runner) :
    terminal.hostAsking runner .absent = terminal.host runner := by
  refine congrArg Host.mk (funext fun request => funext fun console => ?_)
  cases request with
  | confirm question =>
    simp only [Prompter.absent]
    split
    next yes => rw [yes]
    next no => rw [Bool.eq_false_iff.mpr no]
  | save | run | replace | notify | registerCommand | registerScheme => rfl

theorem hostAsking_responsive (terminal : Terminal) (runner : Runner) (prompter : Prompter) :
    (terminal.hostAsking runner prompter).Responsive := by
  intro request console noRun
  cases request with
  | run call => exact absurd rfl (noRun call)
  | confirm question =>
    simp only [hostAsking]
    split <;> rfl
  | save | replace | notify | registerCommand | registerScheme => rfl

/-- Every argument became a document or was kept aside. -/
theorem length_ofArguments (settings : Settings) (paths : List Path) (assumeYes : Bool)
    (machine : Machine) :
    let terminal := (ofArguments settings paths assumeYes machine).1
    terminal.documents.length + terminal.unreadable.length = paths.length := by
  have opened : ∀ machine, (openEach machine paths).1.length = paths.length := by
    induction paths with
    | nil => intro machine; rfl
    | cons path paths ih => intro machine; simp [openEach, ih]
  have split : ∀ results : List Opened,
      (results.filterMap Sum.getLeft?).length + (results.filterMap Sum.getRight?).length =
        results.length := by
    intro results
    induction results with
    | nil => rfl
    | cons result results ih =>
      cases result with
      | inl document =>
        simp only [List.filterMap_cons, Sum.getLeft?_inl, Sum.getRight?_inl, List.length_cons]
        omega
      | inr file =>
        simp only [List.filterMap_cons, Sum.getLeft?_inr, Sum.getRight?_inr, List.length_cons]
        omega
  simp only [ofArguments, split, opened]

end Terminal

namespace Operation

theorem performAsking_absent (runner : Runner) (options : TerminalOptions) (operation : Operation)
    (machine : Machine) :
    performAsking runner .absent options operation machine =
      operation.perform runner options machine := by
  unfold performAsking perform
  simp only [Terminal.hostAsking_absent]

/-! ### What goes before the command -/

variable {σ : Type} {host : Host σ}

theorem reportUnreadable_cons (file : Unreadable) (files : List Unreadable) :
    reportUnreadable (file :: files) =
      (Program.report (unreadableOutcome file)).bind fun outcome =>
        (reportUnreadable files).bind fun others => .done (outcome :: others) :=
  rfl

theorem reportUnreadable_run (hears : host.Hears) (files : List Unreadable) (state : σ) :
    ((reportUnreadable files).run host state).value = some (files.map unreadableOutcome) ∧
      ((reportUnreadable files).run host state).trace.filterMap Event.notification? =
        (files.map unreadableOutcome).flatMap Outcome.told := by
  induction files generalizing state with
  | nil => exact ⟨rfl, rfl⟩
  | cons file files ih =>
    -- The report of the first file, then those of the others.
    obtain ⟨reported, told⟩ := Program.run_report hears (unreadableOutcome file) state
    obtain ⟨value, others⟩ := ih ((Program.report (unreadableOutcome file)).run host state).state
    rw [reportUnreadable_cons, Program.run_bind reported, Program.run_bind value]
    refine ⟨rfl, ?_⟩
    simp only [Program.run, List.append_nil, List.filterMap_append, told, others, List.map_cons,
      List.flatMap_cons]
    rfl

theorem activate_run (responsive : host.Responsive) (state : σ) :
    (Command.activate.run host state).value = some () ∧
      (Command.activate.run host state).trace.filterMap Event.notification? = [] := by
  have silent := Command.silent_activate.nothing_told (Command.activate.run_goes host state)
  refine ⟨?_, silent⟩
  cases value : (Command.activate.run host state).value with
  | some => rfl
  | none =>
    -- Only a process could have gone unanswered, and registering runs none.
    obtain ⟨call, member⟩ := Program.run_ended responsive _ state value
    have registers : Command.activate.Always (·.call? = none) :=
      Command.always_activate (fun _ _ => rfl) fun _ _ => rfl
    exact nomatch registers _ _ (Command.activate.run_goes host state) _ member

/-- What holds of registrations and notifications holds of everything before the command. -/
theorem always_preamble {condition : Event → Prop} (terminal : Terminal)
    (commands : ∀ id answer, condition ⟨.registerCommand id, answer⟩)
    (schemes : ∀ scheme answer, condition ⟨.registerScheme scheme, answer⟩)
    (tells : ∀ notification answer, condition ⟨.notify notification, answer⟩) :
    (preamble terminal).Always condition := by
  refine Program.always_bind (Command.always_activate commands schemes) fun _ => ?_
  induction terminal.unreadable with
  | nil => exact Program.always_done []
  | cons file files ih =>
    rw [reportUnreadable_cons]
    refine Program.always_bind (Program.always_report tells) fun outcome => ?_
    exact Program.always_bind ih fun _ => Program.always_done _

/-- No process runs before the command. -/
theorem preamble_idle (terminal : Terminal) : (preamble terminal).Always (·.call? = none) :=
  always_preamble terminal (fun _ _ => rfl) (fun _ _ => rfl) fun _ _ => rfl

theorem preamble_run (responsive : host.Responsive) (terminal : Terminal) (state : σ) :
    ((preamble terminal).run host state).value =
        some (terminal.unreadable.map unreadableOutcome) ∧
      ((preamble terminal).run host state).trace.filterMap Event.notification? =
        (terminal.unreadable.map unreadableOutcome).flatMap Outcome.told := by
  obtain ⟨activated, silent⟩ := activate_run responsive state
  obtain ⟨value, told⟩ := reportUnreadable_run responsive.hears terminal.unreadable
    (Command.activate.run host state).state
  have parts : preamble terminal =
      Command.activate.bind fun _ => reportUnreadable terminal.unreadable := rfl
  rw [parts, Program.run_bind activated]
  exact ⟨value, by rw [List.filterMap_append, silent, told, List.nil_append]⟩

/-! ### The whole operation -/

section

variable {host : Host Console} (responsive : host.Responsive) (operation : Operation)
  (terminal : Terminal) (machine : Machine)

/-- The run of the command, behind what goes before it. -/
def commandRun (host : Host Console) (operation : Operation) (terminal : Terminal)
    (machine : Machine) : Run Console Ending :=
  operation.runCommand host (workspace terminal)
    ((preamble terminal).run host ⟨machine, []⟩).state

include responsive

theorem value_performUnder :
    (performUnder host operation terminal machine).value =
      (commandRun host operation terminal machine).value.map
        (withFailures (terminal.unreadable.map unreadableOutcome)) := by
  simp only [performUnder, (preamble_run responsive terminal ⟨machine, []⟩).1]
  rfl

theorem trace_performUnder :
    (performUnder host operation terminal machine).trace =
      ((preamble terminal).run host ⟨machine, []⟩).trace ++
        (commandRun host operation terminal machine).trace := by
  simp only [performUnder, (preamble_run responsive terminal ⟨machine, []⟩).1]
  rfl

theorem notifications_performUnder :
    (performUnder host operation terminal machine).trace.filterMap Event.notification? =
      (terminal.unreadable.map unreadableOutcome).flatMap Outcome.told ++
        (commandRun host operation terminal machine).trace.filterMap Event.notification? := by
  rw [trace_performUnder responsive, List.filterMap_append,
    (preamble_run responsive terminal ⟨machine, []⟩).2]

end

end Operation

end EditorBridge
