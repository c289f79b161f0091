import EditorBridge.Command.Install
import EditorBridge.Command.Overview
import EditorBridge.Proofs.Command.Cleaning
import EditorBridge.Proofs.Command.Mixture
import Mathlib.Data.List.Flatten

/-!
# The processes of commands

A program spawns within a plan when on every way its calls are calls of the plan, in their order and
none of them twice. A command is made of parts that call and parts that do not, so its plan is put
together from theirs. What a process is for decides its arguments and the directory it runs in.

## Main statements

`format_spawns`, `formatSaved_spawns`, `Mixes.spawns`, `render_spawns`, `openOverview_spawns`,
`install_spawns`, `ensureInstalled_spawns`: the plans of the commands, once there is an interpreter.

`formatDocument_unresolved`, `render_unresolved`, `install_unresolved`,
`ensureInstalled_unresolved`: without an interpreter there are only notifications.
-/

namespace EditorBridge

/-- Nothing but a notification was asked for. -/
def Event.IsNotice (event : Event) : Prop := ∃ notification, event.request = .notify notification

theorem Event.IsNotice.call?_eq_none {event : Event} (notice : event.IsNotice) :
    event.call? = none := by
  obtain ⟨request, answer⟩ := event
  obtain ⟨notification, rfl⟩ := notice
  rfl

namespace Program

variable {α β : Type} {plan front back : List Call}

/-- On every way the calls are some of those planned, in their order. -/
def Spawns (plan : List Call) (program : Program α) : Prop :=
  ∀ trace ending, program.Goes trace ending → (trace.filterMap Event.call?).Sublist plan

theorem Always.spawns {program : Program α} (silent : program.Always (·.call? = none)) :
    program.Spawns plan := by
  intro trace ending goes
  rw [List.filterMap_eq_nil_iff.mpr (silent trace ending goes)]
  exact List.nil_sublist plan

theorem spawns_done (value : α) : (done value).Spawns plan := (always_done value).spawns

theorem spawns_report (outcome : Outcome) : (report outcome).Spawns plan :=
  (always_report fun _ _ => rfl).spawns

theorem spawns_invoke (invocation : Invocation) : (invoke invocation).Spawns [invocation.call] := by
  intro trace ending goes
  obtain ⟨answer, rfl, -⟩ := (goes_invoke ..).mp goes
  exact List.Sublist.refl _

/-- A sequence spawns within the plans of its parts, one behind the other. -/
theorem spawns_bind {first : Program α} {next : α → Program β} (before : first.Spawns front)
    (after : ∀ value, (next value).Spawns back) : (first.bind next).Spawns (front ++ back) := by
  intro trace ending goes
  rcases (goes_bind ..).mp goes with ⟨goes, -⟩ | ⟨value, sooner, later, rfl, goes, goesOn⟩
  · exact (before trace none goes).trans (List.sublist_append_left front back)
  · rw [List.filterMap_append]
    exact (before _ _ goes).append (after value _ _ goesOn)

theorem spawns_bind_silent {first : Program α} {next : α → Program β} (before : first.Spawns plan)
    (after : ∀ value, (next value).Spawns []) : (first.bind next).Spawns plan := by
  have whole := spawns_bind before after
  rwa [List.append_nil] at whole

/-- Reporting does nothing but notify. -/
theorem always_notice (outcome : Outcome) : (report outcome).Always Event.IsNotice :=
  always_report fun notification _ => ⟨notification, rfl⟩

end Program

namespace Command

/-! ### Purposes -/

/-- What the interpreter is started for. -/
inductive Purpose where
  | clean (document : Document)
  | overview (source : Path)
  | probe
  | install
  deriving DecidableEq, Repr

namespace Purpose

/-- The arguments of the interpreter. -/
def arguments (tool : String) (config : Config) : Purpose → List String
  | .clean document =>
    "-m" :: tool :: cleanArguments (.ofDocument document) (config.cleanOptions document)
  | .overview source => "-m" :: tool :: overviewArguments source config.overviewOptions
  | .probe => ["-m", tool, "--version"]
  | .install => ["-m", "pip", "install", "--upgrade", tool]

/-- The file that the process works on, if it works on one. -/
def file? : Purpose → Option Path
  | .clean document => document.path
  | .overview source => some source
  | .probe | .install => none

/-- The process that serves the purpose in a workspace. -/
def call (workspace : Workspace) (interpreter : Path) (purpose : Purpose) : Call where
  program := interpreter
  arguments := purpose.arguments workspace.tool workspace.config
  directory := purpose.file?.bind Path.directory?

end Purpose

/-! ### Plans of the commands -/

section

variable {workspace : Workspace} {interpreter : Path}

theorem clean_spawns (resolved : workspace.config.interpreter? = some interpreter)
    (document : Document) (save : Bool) :
    (clean workspace document save).Spawns
      [(Purpose.clean document).call workspace interpreter] := by
  unfold clean
  rw [resolved]
  have saves : (saveFirst save document).Spawns [] := (always_saveFirst fun _ _ => rfl).spawns
  refine Program.spawns_bind saves fun saving => ?_
  cases saving with
  | error error => exact Program.spawns_done _
  | ok _ =>
    refine Program.spawns_bind_silent (Program.spawns_invoke _) fun produced => ?_
    cases produced with
    | error failure => exact Program.spawns_done _
    | ok output =>
      have applies : (applyOutput workspace document output).Spawns [] :=
        (always_applyOutput fun _ _ => rfl).spawns
      refine Program.spawns_bind_silent applies fun applying => ?_
      cases applying <;> exact Program.spawns_done _

theorem formatDocument_spawns (resolved : workspace.config.interpreter? = some interpreter)
    (document : Document) (save : Bool) :
    (formatDocument workspace document save).Spawns
      [(Purpose.clean document).call workspace interpreter] :=
  Program.spawns_bind_silent (clean_spawns resolved document save) fun _ => Program.spawns_report _

theorem format_spawns (resolved : workspace.config.interpreter? = some interpreter) :
    (format workspace).Spawns
      (workspace.documents.head?.toList.map fun document =>
        (Purpose.clean document).call workspace interpreter) := by
  unfold format
  split
  next => exact Program.spawns_done _
  next document first =>
    rw [first]
    exact formatDocument_spawns resolved document true

theorem formatSaved_spawns (resolved : workspace.config.interpreter? = some interpreter)
    (document : Document) :
    (formatSaved workspace document).Spawns
      [(Purpose.clean document).call workspace interpreter] := by
  unfold formatSaved
  split
  next => exact formatDocument_spawns resolved document false
  next => exact Program.spawns_done _

theorem render_spawns (resolved : workspace.config.interpreter? = some interpreter)
    (source : Path) :
    (render workspace source).Spawns [(Purpose.overview source).call workspace interpreter] := by
  unfold render
  rw [resolved]
  exact Program.spawns_bind_silent (Program.spawns_invoke _) fun _ => Program.spawns_done _

theorem openOverview_spawns (resolved : workspace.config.interpreter? = some interpreter)
    (target : String) :
    (openOverview workspace target).Spawns
      [(Purpose.overview (overviewSource target)).call workspace interpreter] := by
  refine Program.spawns_bind_silent (render_spawns resolved _) fun content => ?_
  cases content with
  | ok content => exact Program.spawns_done _
  | error error =>
    exact Program.spawns_bind_silent (Program.spawns_report _) fun _ => Program.spawns_done _

theorem installWith_spawns (workspace : Workspace) (interpreter : Path) :
    (installWith workspace interpreter).Spawns [Purpose.install.call workspace interpreter] :=
  Program.spawns_bind_silent (Program.spawns_invoke _) fun _ => Program.spawns_report _

theorem install_spawns (resolved : workspace.config.interpreter? = some interpreter) :
    (install workspace).Spawns [Purpose.install.call workspace interpreter] := by
  unfold install
  rw [resolved]
  exact installWith_spawns workspace interpreter

theorem probe_spawns (workspace : Workspace) (interpreter : Path) :
    (probe workspace interpreter).Spawns [Purpose.probe.call workspace interpreter] := by
  refine Program.spawns_bind_silent (Program.spawns_invoke _) fun result => ?_
  cases result <;> exact Program.spawns_done _

theorem ensureInstalled_spawns (resolved : workspace.config.interpreter? = some interpreter) :
    (ensureInstalled workspace).Spawns
      [Purpose.probe.call workspace interpreter, Purpose.install.call workspace interpreter] := by
  unfold ensureInstalled
  rw [resolved]
  refine Program.spawns_bind (probe_spawns workspace interpreter) fun status => ?_
  split
  next => exact Program.spawns_report _
  next question _ =>
    have asks : (Program.request (.confirm question)).Spawns [] :=
      (Program.always_request fun _ => rfl).spawns
    refine Program.spawns_bind asks fun answer => ?_
    split
    next => exact installWith_spawns workspace interpreter
    next => exact Program.spawns_report _
    next => exact Program.spawns_report _

/-! ### Calls that are made -/

/-- Where one call is planned, a way on which it is made has no other. -/
theorem calls_eq_of_mem {α : Type} {program : Program α} {call : Call}
    (spawns : program.Spawns [call]) {trace : List Event} {ending : Option α}
    (goes : program.Goes trace ending) {answer : Option (Except String Output)}
    (made : ⟨.run call, answer⟩ ∈ trace) : trace.filterMap Event.call? = [call] := by
  rcases List.sublist_singleton.mp (spawns trace ending goes) with none | one
  · cases List.filterMap_eq_nil_iff.mp none _ made
  · exact one

/-- A program that begins with a run of the interpreter makes that call first. -/
theorem exists_run_of_goes {α : Type} {invocation : Invocation}
    {next : Except ToolFailure String → Program α} {trace : List Event} {ending : Option α}
    (goes : ((Program.invoke invocation).bind next).Goes trace ending) :
    ∃ answer rest, trace = ⟨.run invocation.call, answer⟩ :: rest := by
  rcases (Program.goes_invoke_bind ..).mp goes with ⟨answer, rest, rfl, -⟩ | ⟨rfl, -⟩
  · exact ⟨some answer, rest, rfl⟩
  · exact ⟨none, [], rfl⟩

theorem goes_clean_reaches (resolved : workspace.config.interpreter? = some interpreter)
    {document : Document} {save : Bool} {trace : List Event}
    {ending : Option (Except Error String)}
    (goes : (clean workspace document save).Goes trace ending) :
    (∃ answer, ⟨.run ((Purpose.clean document).call workspace interpreter), answer⟩ ∈ trace) ∨
      ∃ answer, trace = [⟨.save document, answer⟩] ∧ answer ≠ some (.ok ()) := by
  unfold clean at goes
  rw [resolved] at goes
  rcases (Program.goes_bind ..).mp goes with
    ⟨first, -⟩ | ⟨saving, saves, rest, rfl, first, afterSaving⟩
  · rcases goes_saveFirst first with ⟨-, rfl⟩ | ⟨-, -, absurd⟩
    · exact .inr ⟨none, rfl, nofun⟩
    · cases absurd
  rcases saving with error | _
  · obtain ⟨rfl, -⟩ := (Program.goes_done ..).mp afterSaving
    rcases goes_saveFirst first with ⟨-, rfl⟩ | ⟨-, -, absurd⟩
    · exact .inr ⟨some (.error error), rfl, nofun⟩
    · cases absurd
  · obtain ⟨answer, later, rfl⟩ := exists_run_of_goes afterSaving
    exact .inl ⟨answer, List.mem_append_right saves List.mem_cons_self⟩

/-- With an interpreter a document is cleaned by one call, unless it was to be saved first and that
was not confirmed. -/
theorem goes_formatDocument_calls (resolved : workspace.config.interpreter? = some interpreter)
    {document : Document} {save : Bool} {trace : List Event} {ending : Option Outcome}
    (goes : (formatDocument workspace document save).Goes trace ending) :
    trace.filterMap Event.call? = [(Purpose.clean document).call workspace interpreter] ∨
      trace.filterMap Event.call? = [] ∧
        ∃ answer, (⟨.save document, answer⟩ : Event) ∈ trace ∧ answer ≠ some (.ok ()) := by
  have spawns := formatDocument_spawns resolved document save
  rcases (Program.goes_bind ..).mp goes with
    ⟨first, rfl⟩ | ⟨result, work, last, rfl, first, reports⟩
  · rcases goes_clean_reaches resolved first with ⟨answer, made⟩ | ⟨answer, rfl, unsaved⟩
    · exact .inl (calls_eq_of_mem spawns goes made)
    · exact .inr ⟨rfl, answer, List.mem_cons_self, unsaved⟩
  · rcases goes_clean_reaches resolved first with ⟨answer, made⟩ | ⟨answer, rfl, unsaved⟩
    · exact .inl (calls_eq_of_mem spawns goes (List.mem_append_left last made))
    · have silent := List.sublist_nil.mp (Program.spawns_report _ last ending reports)
      refine .inr ⟨?_, answer, List.mem_cons_self, unsaved⟩
      rw [List.filterMap_append, silent]
      rfl

theorem goes_render_reaches (resolved : workspace.config.interpreter? = some interpreter)
    {source : Path} {trace : List Event} {ending : Option (Except Error String)}
    (goes : (render workspace source).Goes trace ending) :
    ∃ answer, ⟨.run ((Purpose.overview source).call workspace interpreter), answer⟩ ∈ trace := by
  unfold render at goes
  rw [resolved] at goes
  obtain ⟨answer, rest, rfl⟩ := exists_run_of_goes goes
  exact ⟨answer, List.mem_cons_self⟩

theorem goes_render_calls (resolved : workspace.config.interpreter? = some interpreter)
    {source : Path} {trace : List Event} {ending : Option (Except Error String)}
    (goes : (render workspace source).Goes trace ending) :
    trace.filterMap Event.call? = [(Purpose.overview source).call workspace interpreter] := by
  obtain ⟨answer, made⟩ := goes_render_reaches resolved goes
  exact calls_eq_of_mem (render_spawns resolved source) goes made

theorem goes_openOverview_calls (resolved : workspace.config.interpreter? = some interpreter)
    {target : String} {trace : List Event} {ending : Option (Option String)}
    (goes : (openOverview workspace target).Goes trace ending) :
    trace.filterMap Event.call? =
      [(Purpose.overview (overviewSource target)).call workspace interpreter] := by
  have spawns := openOverview_spawns resolved target
  rcases (Program.goes_bind ..).mp goes with ⟨first, -⟩ | ⟨_, front, back, rfl, first, -⟩
  · obtain ⟨answer, made⟩ := goes_render_reaches resolved first
    exact calls_eq_of_mem spawns goes made
  · obtain ⟨answer, made⟩ := goes_render_reaches resolved first
    exact calls_eq_of_mem spawns goes (List.mem_append_left back made)

/-- The calls of a mixture clean documents of the workspace, each of them at most once. -/
theorem Mixes.spawns {trace : List (Turn × Event)} (mixes : Mixes workspace trace)
    (resolved : workspace.config.interpreter? = some interpreter) :
    ∃ cleaned : List Document, cleaned.Sublist workspace.documents ∧
      ((trace.map (·.2)).filterMap Event.call?).Perm
        (cleaned.map fun document => (Purpose.clean document).call workspace interpreter) :=
  mixes.reads_some (fun _ => rfl) fun document events ending =>
    formatDocument_spawns resolved document true events ending

/-! ### Without an interpreter -/

theorem formatDocument_unresolved (missing : workspace.config.interpreter? = none)
    (document : Document) (save : Bool) :
    (formatDocument workspace document save).Always Event.IsNotice := by
  unfold formatDocument clean
  rw [missing]
  exact Program.always_bind (Program.always_done _) fun _ => Program.always_notice _

theorem render_unresolved (missing : workspace.config.interpreter? = none) (source : Path) :
    (render workspace source).Always Event.IsNotice := by
  unfold render
  rw [missing]
  exact Program.always_done _

theorem install_unresolved (missing : workspace.config.interpreter? = none) :
    (install workspace).Always Event.IsNotice := by
  unfold install
  rw [missing]
  exact Program.always_notice _

theorem ensureInstalled_unresolved (missing : workspace.config.interpreter? = none) :
    (ensureInstalled workspace).Always Event.IsNotice := by
  unfold ensureInstalled
  rw [missing]
  exact Program.always_notice _

end

end Command

end EditorBridge
