import EditorBridge.Proofs.Command.Telling
import EditorBridge.Proofs.Session.Surroundings

/-!
# One notification for each outcome

Every action of a session tells the user what its reply calls for and nothing else. For one program
this was shown in whatever surroundings it runs; here it is carried over to the actions, and from
them to the deeds of a history, whatever was changed in between.

## Main statements

`actions_report`: along every history, and in all surroundings in which only processes fail to
answer, an action notifies once for each outcome that is not skipped.
-/

namespace EditorBridge

/-! ### Actions in any surroundings -/

namespace Action

/-- The replies to an action, each with what the user is told. There is no reply when the runner
ended the action, which it cannot do to formatting all documents. -/
inductive Tells : Action → Option Reply → List Notification → Prop
  | activate : Tells .activate (some .nothing) []
  | format (outcome : Outcome) : Tells .format (some (.outcome outcome)) outcome.told
  | formatAll {schedule : List Command.Turn} {outcomes : List Outcome}
      {told : List Notification} :
      told.Perm (outcomes.flatMap Outcome.told) →
      Tells (.formatAll schedule) (some (.outcomes outcomes)) told
  | saved (document : Document) (outcome : Outcome) :
      Tells (.saved document) (some (.outcome outcome)) outcome.told
  | opened (target : String) (content : String) :
      Tells (.openOverview target) (some (.overview (some content))) []
  | unopened (target : String) :
      Tells (.openOverview target) (some (.overview none))
        [⟨.error, Error.interpreterNotFound.message⟩]
  | provide (uri : String) (content : Except Error String) :
      Tells (.provide uri) (some (.document content)) []
  | render (source : Path) (content : Except Error String) :
      Tells (.render source) (some (.document content)) []
  | ensureInstalled (outcome : Outcome) :
      Tells .ensureInstalled (some (.outcome outcome)) outcome.told
  | install (outcome : Outcome) : Tells .install (some (.outcome outcome)) outcome.told
  | invoke (interpreter : Path) (arguments : List String) (directory : Option Path)
      (result : Except ToolFailure String) :
      Tells (.invoke interpreter arguments directory) (some (.ran result)) []
  | probe (interpreter : Path) (status : ToolStatus) :
      Tells (.probe interpreter) (some (.status status)) []
  | installTool (interpreter : Path) (result : Except ToolFailure String) :
      Tells (.installTool interpreter) (some (.ran result)) []
  | ended {action : Action} :
      (∀ schedule, action ≠ .formatAll schedule) → Tells action none []

/-- A run of an action tells what its reply calls for, and it has a reply unless a process did not
answer. -/
def Reports {σ : Type} (action : Action) (run : Run σ Reply) : Prop :=
  action.Tells run.value (run.trace.filterMap Event.notification?) ∧
    (run.value = none → ∃ call, (⟨.run call, none⟩ : Event) ∈ run.trace)

section

variable {σ : Type} {host : Host σ}

/-- An action that runs one program reports as the program tells. -/
theorem reports_runAs {α : Type} {program : Program α} {told : α → List Notification}
    (action : Action) (alone : ∀ schedule, action ≠ .formatAll schedule) {reply : α → Reply}
    (tells : program.Tells told)
    (matching : ∀ value, action.Tells (some (reply value)) (told value))
    (responsive : host.Responsive) (state : σ) :
    action.Reports (program.runAs host state reply) := by
  -- What the program tells is read off its value, so the two cases of the value decide.
  have events := tells.run responsive.hears state
  have ends := program.run_ended responsive state
  simp only [Reports, Program.runAs, events]
  cases found : (program.run host state).value with
  | none => exact ⟨.ended alone, fun _ => ends found⟩
  | some value => exact ⟨matching value, nofun⟩

/-- In all surroundings in which only processes fail to answer, actions report. -/
theorem runUnder_reports (responsive : host.Responsive) (workspace : Workspace) (state : σ)
    (action : Action) : action.Reports (action.runUnder host workspace state) := by
  cases action with
  | activate =>
    have tells := Command.silent_activate.tells
    exact reports_runAs .activate nofun tells (fun _ => .activate) responsive state
  | format =>
    have tells := Command.format_tells workspace
    exact reports_runAs .format nofun tells .format responsive state
  | formatAll schedule =>
    obtain ⟨outcomes, value, told⟩ :=
      Command.formatAll_tells responsive.hears schedule workspace state
    simp only [Reports, runUnder, value, Option.map_some]
    exact ⟨.formatAll told, nofun⟩
  | saved document =>
    have tells := Command.formatSaved_tells workspace document
    exact reports_runAs (.saved document) nofun tells (.saved document) responsive state
  | openOverview target =>
    have tells := Command.openOverview_tells workspace target
    refine reports_runAs (.openOverview target) nofun tells (fun content => ?_) responsive state
    cases content with
    | none => exact .unopened target
    | some content => exact .opened target content
  | provide uri =>
    have tells := (Command.silent_provide workspace uri).tells
    exact reports_runAs (.provide uri) nofun tells (.provide uri) responsive state
  | render source =>
    have tells := (Command.silent_render workspace source).tells
    exact reports_runAs (.render source) nofun tells (.render source) responsive state
  | ensureInstalled =>
    have tells := Command.ensureInstalled_tells workspace
    exact reports_runAs .ensureInstalled nofun tells .ensureInstalled responsive state
  | install =>
    have tells := Command.install_tells workspace
    exact reports_runAs .install nofun tells .install responsive state
  | invoke interpreter arguments directory =>
    have tells := (Program.silent_invoke ⟨interpreter, workspace.tool, arguments, directory⟩).tells
    exact reports_runAs (.invoke interpreter arguments directory) nofun tells
      (.invoke interpreter arguments directory) responsive state
  | probe interpreter =>
    have tells := (Command.silent_probe workspace interpreter).tells
    exact reports_runAs (.probe interpreter) nofun tells (.probe interpreter) responsive state
  | installTool interpreter =>
    have tells := (Program.silent_invoke (.install interpreter workspace.tool)).tells
    exact reports_runAs (.installTool interpreter) nofun tells (.installTool interpreter) responsive
      state

end

end Action

/-! ### Histories -/

namespace Session

theorem perform_reports (session : Session) (action : Action) :
    action.Reports (session.perform action) :=
  action.runUnder_reports session.script.host_responsive session.workspace session.script.answers

end Session

/-! ### Main theorem -/

/-- Along every history, and in all surroundings in which only processes fail to answer, what the
user is told during an action is what its reply calls for: one notification for an outcome that is
not skipped, and none for one that is. -/
theorem actions_report :
    (∀ (session : Session) (steps : List Step), ∀ deed ∈ session.deeds steps,
      deed.action.Reports deed.run) ∧
    (∀ (σ : Type) (host : Host σ), host.Responsive →
      ∀ (workspace : Workspace) (state : σ) (action : Action),
        action.Reports (action.runUnder host workspace state)) ∧
    ∀ outcome : Outcome, outcome.told = [] ↔ outcome = .skipped := by
  refine ⟨fun session steps deed member => ?_, ?_, fun outcome => ?_⟩
  · rw [Session.run_of_mem_deeds member]
    exact deed.before.perform_reports deed.action
  · intro σ host responsive workspace state action
    exact action.runUnder_reports responsive workspace state
  · rw [Outcome.told, Option.toList_eq_nil_iff, Outcome.notification?_eq_none_iff]

/-- A history in which the interpreter is taken away after the first action. -/
theorem actions_report_unset :
    let document : Document := ⟨some ⟨"/w/a.py"⟩, "a = 1", "python", none⟩
    let script : Script :=
      ⟨fun _ => .ok (), fun _ _ => .ok (), fun _ => some (.ok .silent), []⟩
    let session : Session := ⟨Command.plainWorkspace [document], script⟩
    let steps : List Step :=
      [.act .format, .configure fun _ => none, .act (.openOverview "/w/a.py"),
        .act (.saved document)]
    (∀ deed ∈ session.deeds steps, deed.action.Reports deed.run) ∧
      (session.deeds steps).map (·.run.trace.filterMap Event.notification?) =
        [[⟨.info, "Successfully formatted \"a.py\""⟩],
          [⟨.error, Error.interpreterNotFound.message⟩], []] := by
  intro document script session steps
  exact ⟨actions_report.1 session steps, by decide +kernel⟩

end EditorBridge
