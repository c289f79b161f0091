import EditorBridge.Proofs.Command.Mixture
import EditorBridge.Session.History

/-!
# Actions in any surroundings

A session performs its actions under the host of its script. What an action asks for is the same
program under any other host, and the traces that it can leave are the ways of that program. An
entry records an action with its workspace and its trace; it is possible when some host, in which
only processes fail to answer, makes the action leave this trace.

## Main statements

`Entry.Possible.leaves`: the trace of a possible entry is one of the ways of its action.

`Session.possible_of_mem_deeds`: what the actions of a history did makes possible entries.
-/

namespace EditorBridge

/-! ### Runs of actions -/

namespace Action

/-- The action is a command of the bridge. The others hand a call of the caller's choice on to the
tool. -/
def IsCommand : Action → Prop
  | .activate | .invoke .. | .probe _ | .installTool _ => False
  | .format | .formatAll _ | .saved _ | .openOverview _ | .provide _ | .render _
  | .ensureInstalled | .install => True

/-- The action cleans documents. -/
def Formats : Action → Prop
  | .format | .formatAll _ | .saved _ => True
  | .activate | .openOverview _ | .provide _ | .render _ | .ensureInstalled | .install | .invoke ..
  | .probe _ | .installTool _ => False

/-- The traces that an action can leave: the ways of its program, and for all documents at once
their mixtures. -/
inductive Leaves (workspace : Workspace) : Action → List Event → Prop
  | activate {trace : List Event} {ending : Option Unit} :
      Command.activate.Goes trace ending → Leaves workspace .activate trace
  | format {trace : List Event} {ending : Option Outcome} :
      (Command.format workspace).Goes trace ending → Leaves workspace .format trace
  | formatAll {schedule : List Command.Turn} {trace : List (Command.Turn × Event)} :
      Command.Mixes workspace trace →
      Leaves workspace (.formatAll schedule) (trace.map (·.2))
  | saved {document : Document} {trace : List Event} {ending : Option Outcome} :
      (Command.formatSaved workspace document).Goes trace ending →
      Leaves workspace (.saved document) trace
  | openOverview {target : String} {trace : List Event} {ending : Option (Option String)} :
      (Command.openOverview workspace target).Goes trace ending →
      Leaves workspace (.openOverview target) trace
  | provide {uri : String} {trace : List Event} {ending : Option (Except Error String)} :
      (Command.provide workspace uri).Goes trace ending → Leaves workspace (.provide uri) trace
  | render {source : Path} {trace : List Event} {ending : Option (Except Error String)} :
      (Command.render workspace source).Goes trace ending →
      Leaves workspace (.render source) trace
  | ensureInstalled {trace : List Event} {ending : Option Outcome} :
      (Command.ensureInstalled workspace).Goes trace ending →
      Leaves workspace .ensureInstalled trace
  | install {trace : List Event} {ending : Option Outcome} :
      (Command.install workspace).Goes trace ending → Leaves workspace .install trace
  | invoke {interpreter : Path} {arguments : List String} {directory : Option Path}
      {trace : List Event} {ending : Option (Except ToolFailure String)} :
      (Program.invoke ⟨interpreter, workspace.tool, arguments, directory⟩).Goes trace ending →
      Leaves workspace (.invoke interpreter arguments directory) trace
  | probe {interpreter : Path} {trace : List Event} {ending : Option ToolStatus} :
      (Command.probe workspace interpreter).Goes trace ending →
      Leaves workspace (.probe interpreter) trace
  | installTool {interpreter : Path} {trace : List Event}
      {ending : Option (Except ToolFailure String)} :
      (Program.invoke (.install interpreter workspace.tool)).Goes trace ending →
      Leaves workspace (.installTool interpreter) trace

/-- A run of an action leaves one of these traces. -/
theorem runUnder_leaves {σ : Type} {host : Host σ} (responsive : host.Responsive)
    (workspace : Workspace) (state : σ) (action : Action) :
    action.Leaves workspace (action.runUnder host workspace state).trace := by
  cases action with
  | activate => exact .activate (Program.run_goes ..)
  | format => exact .format (Program.run_goes ..)
  | formatAll schedule =>
    obtain ⟨trace, mixes, left⟩ :=
      Command.formatAll_mixes responsive.hears schedule workspace state
    exact left ▸ .formatAll mixes
  | saved document => exact .saved (Program.run_goes ..)
  | openOverview target => exact .openOverview (Program.run_goes ..)
  | provide uri => exact .provide (Program.run_goes ..)
  | render source => exact .render (Program.run_goes ..)
  | ensureInstalled => exact .ensureInstalled (Program.run_goes ..)
  | install => exact .install (Program.run_goes ..)
  | invoke interpreter arguments directory => exact .invoke (Program.run_goes ..)
  | probe interpreter => exact .probe (Program.run_goes ..)
  | installTool interpreter => exact .installTool (Program.run_goes ..)

/-- What holds of every event of the programs that the commands are made of holds of every event
that a command leaves. -/
theorem Leaves.always {workspace : Workspace} {action : Action} {trace : List Event}
    {condition : Event → Prop} (leaves : action.Leaves workspace trace)
    (command : action.IsCommand)
    (formats : action.Formats → ∀ document save,
      (Command.formatDocument workspace document save).Always condition)
    (renders : ∀ source, (Command.render workspace source).Always condition)
    (checks : action = .ensureInstalled → (Command.ensureInstalled workspace).Always condition)
    (installs : action = .install → (Command.install workspace).Always condition)
    (tells : ∀ notification answer, condition ⟨.notify notification, answer⟩) :
    ∀ event ∈ trace, condition event := by
  cases leaves with
  | @format trace ending goes =>
    have always : (Command.format workspace).Always condition := by
      unfold Command.format
      split
      next => exact Program.always_done _
      next document _ => exact formats trivial document true
    exact always trace ending goes
  | formatAll mixes =>
    exact mixes.always (fun document _ => formats trivial document true) fun _ => tells _ _
  | @saved document trace ending goes =>
    have always : (Command.formatSaved workspace document).Always condition := by
      unfold Command.formatSaved
      split
      next => exact formats trivial document false
      next => exact Program.always_done _
    exact always trace ending goes
  | @openOverview target trace ending goes =>
    have always : (Command.openOverview workspace target).Always condition := by
      refine Program.always_bind (renders _) fun content => ?_
      cases content with
      | ok content => exact Program.always_done _
      | error error =>
        exact Program.always_bind (Program.always_report tells) fun _ => Program.always_done _
    exact always trace ending goes
  | @provide uri trace ending goes =>
    have always : (Command.provide workspace uri).Always condition := by
      unfold Command.provide
      split
      next => exact Program.always_done _
      next uri _ => exact renders uri.source
    exact always trace ending goes
  | @render source trace ending goes => exact renders source trace ending goes
  | @ensureInstalled trace ending goes => exact checks rfl trace ending goes
  | @install trace ending goes => exact installs rfl trace ending goes
  | activate | invoke | probe | installTool => cases command

end Action

/-! ### Entries -/

/-- An action that was performed, the workspace it worked on, and all that it asked for. -/
structure Entry where
  workspace : Workspace
  action : Action
  trace : List Event

/-- There are surroundings, with none but processes failing to answer, in which the action leaves
this trace. -/
def Entry.Possible (entry : Entry) : Prop :=
  ∃ (σ : Type) (host : Host σ) (state : σ), host.Responsive ∧
    entry.trace = (entry.action.runUnder host entry.workspace state).trace

theorem Entry.Possible.leaves {entry : Entry} (possible : entry.Possible) :
    entry.action.Leaves entry.workspace entry.trace := by
  obtain ⟨σ, host, state, responsive, same⟩ := possible
  rw [same]
  exact Action.runUnder_leaves responsive entry.workspace state entry.action

/-- What a deed leaves on record. -/
def Deed.entry (deed : Deed) : Entry := ⟨deed.before.workspace, deed.action, deed.run.trace⟩

namespace Session

/-- A deed is that of a step, performed where the steps before it have led. -/
theorem exists_step_of_mem_deeds {session : Session} {steps : List Step} {deed : Deed}
    (member : deed ∈ session.deeds steps) :
    ∃ front back, steps = front ++ .act deed.action :: back ∧
      deed.before = session.after front ∧ deed.run = deed.before.perform deed.action := by
  induction steps generalizing session with
  | nil => cases member
  | cons step steps ih =>
    rcases List.mem_append.mp member with now | later
    -- Only acting leaves a deed; the other steps change the session for those that follow.
    · cases step with
      | act action =>
        obtain rfl := List.mem_singleton.mp now
        exact ⟨[], steps, rfl, rfl, rfl⟩
      | configure | «open» | direct => cases now
    · obtain ⟨front, back, rfl, before, run⟩ := ih later
      exact ⟨step :: front, back, rfl, before, run⟩

theorem run_of_mem_deeds {session : Session} {steps : List Step} {deed : Deed}
    (member : deed ∈ session.deeds steps) : deed.run = deed.before.perform deed.action := by
  obtain ⟨front, back, -, -, run⟩ := exists_step_of_mem_deeds member
  exact run

theorem act_mem_of_mem_deeds {session : Session} {steps : List Step} {deed : Deed}
    (member : deed ∈ session.deeds steps) : .act deed.action ∈ steps := by
  obtain ⟨front, back, rfl, -, -⟩ := exists_step_of_mem_deeds member
  exact List.mem_append_right front List.mem_cons_self

theorem perform_possible (session : Session) (action : Action) :
    Entry.Possible ⟨session.workspace, action, (session.perform action).trace⟩ :=
  ⟨_, session.script.host, session.script.answers, session.script.host_responsive, rfl⟩

/-- What the actions of a history did makes possible entries. -/
theorem possible_of_mem_deeds {session : Session} {steps : List Step} {deed : Deed}
    (member : deed ∈ session.deeds steps) : deed.entry.Possible := by
  rw [Deed.entry, run_of_mem_deeds member]
  exact deed.before.perform_possible deed.action

/-- No step changes the module name of the tool. -/
theorem tool_after (session : Session) (steps : List Step) :
    (session.after steps).workspace.tool = session.workspace.tool := by
  induction steps generalizing session with
  | nil => rfl
  | cons step steps ih =>
    have kept : (session.step step).1.workspace.tool = session.workspace.tool := by
      cases step <;> rfl
    exact (ih (session.step step).1).trans kept

theorem tool_of_mem_deeds {session : Session} {steps : List Step} {deed : Deed}
    (member : deed ∈ session.deeds steps) :
    deed.before.workspace.tool = session.workspace.tool := by
  obtain ⟨front, back, -, before, -⟩ := exists_step_of_mem_deeds member
  rw [before, tool_after]

end Session

end EditorBridge
