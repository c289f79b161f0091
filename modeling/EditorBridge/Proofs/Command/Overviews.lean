import EditorBridge.Command.Overview
import EditorBridge.Proofs.Command.Cleaning
import EditorBridge.Proofs.Overview.Address
import EditorBridge.Proofs.Path.Directory
import EditorBridge.Proofs.Tool.Streams

/-!
# The entries to an overview

An overview can be rendered for a path, provided at an address, and opened for a target. The three differ
in how they read what they are given: a path is taken as it is, an address has to be one, and a target
that is no address is taken as a path. From there on they make the same call and show the same content.

## Main statements

`Command.run_render_of_resolved`: what rendering comes to when there is an interpreter.

`Command.opensAs`: what opening makes of a rendering.

`Command.overviews_agree`: the three entries on every target.
-/

namespace EditorBridge

/-- The text is the address of a path that is not empty. -/
def OverviewUri.IsAddress (text : String) : Prop :=
  ∃ source, source ≠ "" ∧ text = "docbridge-overview:" ++ source ++ ".md"

theorem OverviewUri.parse_address {source : Path} (visible : source.text ≠ "") :
    parse ("docbridge-overview:" ++ source.text ++ ".md") = .ok ⟨source⟩ :=
  (parse_eq_ok_iff ..).mpr ⟨visible, text_eq ⟨source⟩⟩

theorem OverviewUri.parse_foreign {text : String} (foreign : ¬ IsAddress text) :
    parse text = .error (.invalidOverviewUri text) := by
  cases result : parse text with
  | error error => rw [eq_invalid_of_parse result]
  | ok uri =>
    obtain ⟨visible, written⟩ := (parse_eq_ok_iff ..).mp result
    exact absurd ⟨uri.source.text, visible, written.symm.trans (text_eq uri)⟩ foreign

namespace Command

/-! ### Rendering -/

/-- The directory that the overview of a source is rendered in: its parent when the source lies below the
root, and none for the root and for a relative path. -/
inductive RenderedIn (source : Path) : Option Path → Prop
  | parent {directory : Path} : source.IsBelowRoot → directory.IsParent source →
      RenderedIn source (some directory)
  | nowhere : ¬ source.IsBelowRoot → RenderedIn source none

theorem renderedIn (source : Path) : RenderedIn source source.directory? := by
  cases found : source.directory? with
  | none => exact .nowhere ((Path.directory?_eq_none_iff source).mp found)
  | some directory =>
    refine .parent ?_ (Path.components_of_directory? found)
    -- Only a path below the root has a directory.
    by_contra outside
    cases found.symm.trans ((Path.directory?_eq_none_iff source).mpr outside)

/-- The process that renders the overview of a source. -/
structure RenderingCall (workspace : Workspace) (interpreter source : Path) (call : Call) : Prop where
  program : call.program = interpreter
  arguments : call.arguments = ["-m", workspace.tool, "overview", source.text] ++
    (if workspace.config.isOn .includePrivate then ["--include-private"] else []) ++
    (if workspace.config.isOn .safeMode then ["--safe"] else [])
  directory : RenderedIn source call.directory

theorem renderingCall (workspace : Workspace) (interpreter source : Path) :
    RenderingCall workspace interpreter source (rendering workspace interpreter source).call where
  program := rfl
  arguments := rfl
  directory := renderedIn source

/-- The content for an answer of the process: what was printed, or why it failed in a fenced block. -/
inductive Shows (moduleName : String) : Except String Output → String → Prop
  | printed {output : Output} : output.success = true →
      Shows moduleName (.ok output) (Text.decodeLossy output.stdout)
  | fenced {answer : Except String Output} {failure : ToolFailure} :
      Invocation.Ends moduleName answer (.error failure) →
      Shows moduleName answer (Fence.render failure.message)

theorem shows_overviewContent (invocation : Invocation) (answer : Except String Output) :
    Shows invocation.moduleName answer (overviewContent (invocation.result answer)) := by
  have ends := (invocation.result_eq_iff_ends answer _).mp rfl
  cases result : invocation.result answer with
  | error failure =>
    rw [result] at ends
    exact .fenced ends
  | ok text =>
    rw [result] at ends
    cases ends with
    | succeeded success => exact .printed success

/-- What rendering comes to: content for every answer, and never an error. Without an answer it is
ended. -/
inductive Renders (moduleName : String) :
    Option (Except String Output) → Option (Except Error String) → Prop
  | shown {answer : Except String Output} {content : String} : Shows moduleName answer content →
      Renders moduleName (some answer) (some (.ok content))
  | ended : Renders moduleName none none

section

variable {σ : Type} {host : Host σ} {workspace : Workspace}

theorem render_eq {interpreter : Path} (resolved : workspace.config.interpreter? = some interpreter)
    (source : Path) :
    render workspace source =
      .ask (.run (rendering workspace interpreter source).call) fun answer =>
        .done (.ok (overviewContent ((rendering workspace interpreter source).result answer))) := by
  simp only [render, resolved]
  rfl

/-- Rendering is the one call. -/
theorem run_render_of_resolved {interpreter : Path}
    (resolved : workspace.config.interpreter? = some interpreter) (source : Path) (state : σ) :
    ∃ call value, RenderingCall workspace interpreter source call ∧
      Renders workspace.tool (host.answer (.run call) state).1 value ∧
      (render workspace source).run host state =
        ⟨value, (host.answer (.run call) state).2,
          [⟨.run call, (host.answer (.run call) state).1⟩]⟩ := by
  let invocation := rendering workspace interpreter source
  have calls := renderingCall workspace interpreter source
  -- By the answer to the one request that there is.
  rcases answered : host.answer (.run invocation.call) state with ⟨_ | answer, later⟩
  · refine ⟨invocation.call, none, calls, ?_, ?_⟩
    · rw [answered]
      exact .ended
    · rw [render_eq resolved, Program.run, answered]
  · refine ⟨invocation.call, some (.ok (overviewContent (invocation.result answer))), calls, ?_, ?_⟩
    · rw [answered]
      exact .shown (shows_overviewContent invocation answer)
    · rw [render_eq resolved, Program.run, answered]
      rfl

theorem render_eq_of_unresolved (missing : workspace.config.interpreter? = none) (source : Path) :
    render workspace source = .done (.error .interpreterNotFound) := by
  simp only [render, missing]

/-! ### Opening -/

/-- What opening makes of a rendering: the content is opened as it is, an error is told instead, and
an end is an end. -/
structure OpensAs (host : Host σ) (rendered : Run σ (Except Error String))
    (opened : Run σ (Option String)) : Prop where
  content : ∀ content, rendered.value = some (.ok content) →
    opened = ⟨some (some content), rendered.state, rendered.trace⟩
  ended : rendered.value = none → opened = ⟨none, rendered.state, rendered.trace⟩
  error : ∀ error, rendered.value = some (.error error) →
    let notice : Request := .notify ⟨.error, error.message⟩
    let answer := host.answer notice rendered.state
    opened = ⟨answer.1.map fun _ => none, answer.2, rendered.trace ++ [⟨notice, answer.1⟩]⟩

theorem run_tell_error (error : Error) (state : σ) :
    let notice : Request := .notify ⟨.error, error.message⟩
    let answer := host.answer notice state
    ((Program.report (.ofError error)).bind fun _ => .done (none : Option String)).run host state =
      ⟨answer.1.map fun _ => none, answer.2, [⟨notice, answer.1⟩]⟩ := by
  intro notice answer
  have told : Program.report (.ofError error) =
      .ask notice fun _ => .done (.ofError error) := by
    rw [Program.report, Outcome.notification?_ofError]
  rw [told, Program.bind, Program.run]
  rcases answered : host.answer notice state with ⟨_ | _, later⟩ <;>
    simp only [answer, answered] <;> rfl

theorem opensAs (host : Host σ) (workspace : Workspace) (target : String) (state : σ) :
    OpensAs host ((render workspace (overviewSource target)).run host state)
      ((openOverview workspace target).run host state) := by
  unfold openOverview
  -- By what the rendering came to, which is the first part of opening.
  refine ⟨fun content came => ?_, fun ended => ?_, fun error came => ?_⟩
  · rw [Program.run_bind came]
    simp only [Program.run, List.append_nil]
  · exact Program.run_bind_of_ended ended _
  · rw [Program.run_bind came]
    simp only [run_tell_error error]

end

/-! ### Main theorem -/

theorem overviewSource_address {source : Path} (visible : source.text ≠ "") :
    overviewSource ("docbridge-overview:" ++ source.text ++ ".md") = source := by
  simp only [overviewSource, OverviewUri.parse_address visible]

theorem overviewSource_foreign {target : String} (foreign : ¬ OverviewUri.IsAddress target) :
    overviewSource target = ⟨target⟩ := by
  simp only [overviewSource, OverviewUri.parse_foreign foreign]

/-- The three entries to an overview in one workspace. -/
structure OverviewsAgree {σ : Type} (host : Host σ) (workspace : Workspace) : Prop where
  /-- All of them lead to the source that an address names. -/
  address : ∀ (source : Path) state, source.text ≠ "" →
    let target := "docbridge-overview:" ++ source.text ++ ".md"
    let rendered := (render workspace source).run host state
    (provide workspace target).run host state = rendered ∧
      OpensAs host rendered ((openOverview workspace target).run host state)
  /-- Any other target is opened as a path, and not provided at all. -/
  foreign : ∀ target state, ¬ OverviewUri.IsAddress target →
    (provide workspace target).run host state =
        ⟨some (.error (.invalidOverviewUri target)), state, []⟩ ∧
      OpensAs host ((render workspace ⟨target⟩).run host state)
        ((openOverview workspace target).run host state)
  resolved : ∀ interpreter, workspace.config.interpreter? = some interpreter → ∀ source state,
    ∃ call value, RenderingCall workspace interpreter source call ∧
      Renders workspace.tool (host.answer (.run call) state).1 value ∧
      (render workspace source).run host state =
        ⟨value, (host.answer (.run call) state).2,
          [⟨.run call, (host.answer (.run call) state).1⟩]⟩
  unresolved : workspace.config.interpreter? = none → ∀ source state,
    (render workspace source).run host state = ⟨some (.error .interpreterNotFound), state, []⟩
  /-- Without an interpreter opening does nothing but tell that. -/
  unopened : workspace.config.interpreter? = none → ∀ target state,
    let notice : Request := .notify ⟨.error, Error.interpreterNotFound.message⟩
    let answer := host.answer notice state
    (openOverview workspace target).run host state =
      ⟨answer.1.map fun _ => none, answer.2, [⟨notice, answer.1⟩]⟩

/-- However an overview is asked for, the same source gives the same call and the same content. An
address is read once, whatever its source looks like; a rendering fails only without an interpreter, and
then nothing is called. -/
theorem overviews_agree {σ : Type} (host : Host σ) (workspace : Workspace) :
    OverviewsAgree host workspace where
  address source state visible := by
    have opens := opensAs host workspace ("docbridge-overview:" ++ source.text ++ ".md") state
    rw [overviewSource_address visible] at opens
    refine ⟨?_, opens⟩
    simp only [provide, OverviewUri.parse_address visible]
  foreign target state foreign := by
    have opens := opensAs host workspace target state
    rw [overviewSource_foreign foreign] at opens
    refine ⟨?_, opens⟩
    simp only [provide, OverviewUri.parse_foreign foreign]
    rfl
  resolved interpreter resolved source state := run_render_of_resolved resolved source state
  unresolved missing source state := by
    rw [render_eq_of_unresolved missing]
    rfl
  unopened missing target state := by
    have opens := opensAs host workspace target state
    rw [render_eq_of_unresolved missing] at opens
    exact opens.error .interpreterNotFound rfl

/-- An address whose source is an address too, and the one text of that form that is none. -/
theorem overviews_agree_nested :
    let script : Script := ⟨fun _ => .ok (), fun _ _ => .ok (),
      fun _ => some (.ok ⟨false, some 1, [], [98]⟩), []⟩
    let inner := "docbridge-overview:a.py.md"
    let outer := "docbridge-overview:docbridge-overview:a.py.md.md"
    let empty := "docbridge-overview:.md"
    let call : Call := ⟨⟨"python"⟩, ["-m", "miko", "overview", inner], none⟩
    let content := "\x60\x60\x60\nb\n\x60\x60\x60\n"
    let provided := (provide (plainWorkspace []) outer).run script.host []
    let opened := (openOverview (plainWorkspace []) outer).run script.host []
    (provided = (render (plainWorkspace []) ⟨inner⟩).run script.host [] ∧
      provided.value = some (.ok content) ∧
      provided.trace.filterMap Event.call? = [call] ∧
      opened = ⟨some (some content), provided.state, provided.trace⟩) ∧
    (provide ⟨"miko", fun _ => none, []⟩ empty).run script.host [] =
      ⟨some (.error (.invalidOverviewUri empty)), [], []⟩ := by
  intro script inner outer empty call content provided opened
  have written : "docbridge-overview:" ++ inner ++ ".md" = outer := by decide
  obtain ⟨same, opens⟩ :=
    (overviews_agree script.host (plainWorkspace [])).address ⟨inner⟩ [] (by decide)
  rw [written] at same opens
  have value : provided.value = some (.ok content) := by decide +kernel
  have foreign : ¬ OverviewUri.IsAddress empty := by
    rintro ⟨source, visible, same⟩
    -- It would be read as the address of that source, but it is refused.
    have accepted := OverviewUri.parse_address (show (⟨source⟩ : Path).text ≠ "" from visible)
    rw [← same] at accepted
    have refused : OverviewUri.parse empty = .error (.invalidOverviewUri empty) := by decide +kernel
    cases refused.symm.trans accepted
  refine ⟨⟨same, value, by decide +kernel, ?_⟩, ?_⟩
  · rw [← same] at opens
    exact opens.content content value
  · exact ((overviews_agree script.host ⟨"miko", fun _ => none, []⟩).foreign empty [] foreign).1

end Command

end EditorBridge
