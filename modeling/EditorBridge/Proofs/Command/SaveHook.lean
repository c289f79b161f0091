import EditorBridge.Proofs.Command.Requests
import EditorBridge.Proofs.Command.Spawning
import EditorBridge.Session.Journal

/-!
# The hook after saving

The hook and the command that formats the active document clean in the same way, but the command saves
first. So where saving succeeds, the command goes on as the hook does from there, whatever is answered
later. A hook that does not apply asks for nothing at all.

## Main statements

`Command.run_formatDocument_saving`: a run of the command is a save and a run of the hook.

`Command.formatSaved_follows`: when the hook applies, and what it does.
-/

namespace EditorBridge

/-- A flag is on when it is set, or when its value is the word for it. -/
theorem Config.isOn_eq_true_iff {config : Config} {key : ConfigKey} :
    config.isOn key = true ↔
      config key = some (.flag true) ∨ config key = some (.text "true") := by
  unfold isOn
  cases config key with
  | none => simp
  | some value =>
    simp only [Option.bind_some, Option.some.injEq]
    -- Of all words only one reads as on.
    unfold ConfigValue.asFlag?
    split <;> simp_all

namespace Command

/-! ### Formatting behind a save -/

section

variable {workspace : Workspace} {document : Document}

/-- Formatting that saves asks for that first. -/
theorem formatDocument_true_eq (resolved : workspace.config.interpreter?.isSome = true)
    (titled : document.path.isSome = true) :
    formatDocument workspace document true =
      .ask (.save document) fun
        | .ok _ => formatDocument workspace document false
        | .error error => .report (.ofError error) := by
  obtain ⟨interpreter, found⟩ := Option.isSome_iff_exists.mp resolved
  have saves : saveFirst true document = Program.request (.save document) :=
    if_pos (by simpa using titled)
  simp only [formatDocument, clean, found, saves]
  apply congrArg (Program.ask _)
  funext answer
  cases answer <;> rfl

theorem formatDocument_true_eq_of_unresolved (missing : workspace.config.interpreter? = none) :
    formatDocument workspace document true = formatDocument workspace document false := by
  simp only [formatDocument, clean, missing]

theorem formatDocument_true_eq_of_untitled (untitled : document.path = none) :
    formatDocument workspace document true = formatDocument workspace document false := by
  have unneeded : saveFirst true document = saveFirst false document := by
    simp [saveFirst, untitled]
  simp only [formatDocument, clean, unneeded]

end

section

variable {σ : Type} {host : Host σ} {workspace : Workspace} {document : Document}

/-- A save that succeeds, and the host behind it. Nothing is saved without an interpreter, nor when
the document has no file. -/
inductive Saving (host : Host σ) (workspace : Workspace) (document : Document) (state : σ) :
    List Event → σ → Prop
  | saved {later : σ} :
      workspace.config.interpreter?.isSome = true → document.path.isSome = true →
      host.answer (.save document) state = (some (.ok ()), later) →
      Saving host workspace document state [⟨.save document, some (.ok ())⟩] later
  | unresolved : workspace.config.interpreter? = none → Saving host workspace document state [] state
  | untitled : document.path = none → Saving host workspace document state [] state

theorem run_formatDocument_saving {state later : σ} {saving : List Event}
    (saves : Saving host workspace document state saving later) :
    let unsaved := (formatDocument workspace document false).run host later
    (formatDocument workspace document true).run host state =
      ⟨unsaved.value, unsaved.state, saving ++ unsaved.trace⟩ := by
  cases saves with
  | saved resolved titled answered =>
    -- The first answer is that of the save; the rest of the program is the hook's.
    rw [formatDocument_true_eq resolved titled, Program.run]
    simp only [answered]
    rfl
  | unresolved missing =>
    rw [formatDocument_true_eq_of_unresolved missing]
    rfl
  | untitled untitled =>
    rw [formatDocument_true_eq_of_untitled untitled]
    rfl

theorem always_unsaved (workspace : Workspace) (document : Document) :
    (formatDocument workspace document false).Always (·.saved? = none) :=
  always_formatDocument (fun needed => nomatch needed.1) (fun _ _ => rfl) (fun _ _ _ => rfl)
    fun _ _ => rfl

theorem goes_unsaved_calls {trace : List Event} {ending : Option Outcome}
    (goes : (formatDocument workspace document false).Goes trace ending) :
    trace.filterMap Event.call? = workspace.config.interpreter?.toList.map fun interpreter =>
      (Purpose.clean document).call workspace interpreter := by
  cases resolved : workspace.config.interpreter? with
  | none =>
    have notices := formatDocument_unresolved resolved document false trace ending goes
    exact List.filterMap_eq_nil_iff.mpr fun event member => (notices event member).call?_eq_none
  | some interpreter =>
    rcases goes_formatDocument_calls resolved goes with once | ⟨-, answer, member, -⟩
    · exact once
    · -- Without a call there would have been a save.
      cases always_unsaved workspace document trace ending goes _ member

/-! ### The gate -/

/-- The setting is on, and the document is one of Python. -/
def HookApplies (workspace : Workspace) (document : Document) : Prop :=
  (workspace.config .formatOnSave = some (.flag true) ∨
    workspace.config .formatOnSave = some (.text "true")) ∧ document.languageId = "python"

theorem hookApplies_iff :
    (workspace.config.isOn .formatOnSave && document.languageId == "python") = true ↔
      HookApplies workspace document := by
  rw [Bool.and_eq_true, Config.isOn_eq_true_iff, beq_iff_eq, HookApplies]

theorem formatSaved_eq (applies : HookApplies workspace document) :
    formatSaved workspace document = formatDocument workspace document false :=
  if_pos (hookApplies_iff.mpr applies)

theorem formatSaved_eq_of_not (idle : ¬ HookApplies workspace document) :
    formatSaved workspace document = .done .skipped :=
  if_neg fun gate => idle (hookApplies_iff.mp gate)

/-! ### Main theorem -/

/-- The other documents do not matter to the active one. -/
theorem format_activating (workspace : Workspace) (document : Document) (others : List Document) :
    format { workspace with documents := document :: others } =
      formatDocument workspace document true := rfl

/-- The hook does what the command does that formats the document, but for the save. -/
structure FollowsSave (host : Host σ) (workspace : Workspace) (document : Document) : Prop where
  run_eq : ∀ others state saving later, Saving host workspace document state saving later →
    let hook := (formatSaved workspace document).run host later
    (format { workspace with documents := document :: others }).run host state =
      ⟨hook.value, hook.state, saving ++ hook.trace⟩
  /-- All that differs between the requests is what was saved. -/
  journal : ∀ others state saving later, Saving host workspace document state saving later →
    Journal.ofTrace ((formatSaved workspace document).run host later).trace =
      { Journal.ofTrace ((format { workspace with documents := document :: others }).run host
          state).trace with saved := [] }
  unsaved : ∀ state, ∀ event ∈ ((formatSaved workspace document).run host state).trace,
    event.saved? = none
  calls : ∀ state, ((formatSaved workspace document).run host state).trace.filterMap Event.call? =
    workspace.config.interpreter?.toList.map fun interpreter =>
      (Purpose.clean document).call workspace interpreter
  /-- Behind the work stands the one notification. -/
  cleans : ∀ state outcome,
    ((formatSaved workspace document).run host state).value = some outcome →
    ∃ work notification, Cleans workspace document false work outcome ∧
      outcome.notification? = some notification ∧
      ((formatSaved workspace document).run host state).trace =
        work ++ [⟨.notify notification, some ()⟩] ∧
      work.filterMap Event.notification? = []

theorem Saving.journal_eq {state later : σ} {saving : List Event}
    (saves : Saving host workspace document state saving later) {trace : List Event}
    (unsaved : ∀ event ∈ trace, event.saved? = none) :
    Journal.ofTrace trace = { Journal.ofTrace (saving ++ trace) with saved := [] } := by
  have nothing : (trace.filterMap fun event => event.saved?.map Document.path) = [] :=
    List.filterMap_eq_nil_iff.mpr fun event member => by rw [unsaved event member]; rfl
  cases saves with
  | saved => simp only [Journal.ofTrace, nothing]; rfl
  | unresolved | untitled => simp only [Journal.ofTrace, nothing, List.nil_append]

theorem followsSave (applies : HookApplies workspace document) (host : Host σ) :
    FollowsSave host workspace document := by
  have runs : ∀ others state saving later, Saving host workspace document state saving later →
      let hook := (formatSaved workspace document).run host later
      (format { workspace with documents := document :: others }).run host state =
        ⟨hook.value, hook.state, saving ++ hook.trace⟩ := by
    intro others state saving later saves
    rw [formatSaved_eq applies, format_activating]
    exact run_formatDocument_saving saves
  have unsaved : ∀ state, ∀ event ∈ ((formatSaved workspace document).run host state).trace,
      event.saved? = none := by
    intro state
    rw [formatSaved_eq applies]
    exact always_unsaved workspace document _ _ (Program.run_goes ..)
  -- What is left is about the hook alone, and it is that of formatting without a save.
  refine ⟨runs, ?_, unsaved, ?_, ?_⟩
  · intro others state saving later saves
    rw [runs others state saving later saves]
    exact saves.journal_eq (unsaved later)
  · intro state
    rw [formatSaved_eq applies]
    exact goes_unsaved_calls (Program.run_goes ..)
  · intro state outcome ends
    rw [formatSaved_eq applies] at ends ⊢
    have goes := (formatDocument workspace document false).run_goes host state
    rw [ends] at goes
    obtain ⟨work, notification, cleans, told, trace⟩ := goes_formatDocument goes
    exact ⟨work, notification, cleans, told, trace, cleans.no_notification⟩

end

/-- A hook that applies does what formatting does behind a save that succeeds, but for the save. Any
other hook is skipped, whether or not there is an interpreter, and asks for nothing. -/
theorem formatSaved_follows (workspace : Workspace) (document : Document) :
    (HookApplies workspace document →
      ∀ {σ : Type} (host : Host σ), FollowsSave host workspace document) ∧
    (¬ HookApplies workspace document →
      ∀ {σ : Type} (host : Host σ) (state : σ),
        (formatSaved workspace document).run host state = ⟨some .skipped, state, []⟩) := by
  constructor
  · intro applies σ host
    exact followsSave applies host
  · intro idle σ host state
    rw [formatSaved_eq_of_not idle]
    rfl

/-- A workspace in which the interpreter is set and the hook has this setting. -/
def hookedWorkspace (setting : ConfigValue) : Workspace where
  tool := "miko"
  config
    | .interpreterPath => some (.text "python")
    | .formatOnSave => some setting
    | _ => none
  documents := []

/-- The setting as a word, with an output that cannot be applied. A word in capitals leaves the hook
idle. -/
theorem formatSaved_follows_worded :
    let document : Document := ⟨some ⟨"/w/a.py"⟩, "a", "python", none⟩
    let script : Script :=
      ⟨fun _ => .ok (), fun _ _ => .error (.io "gone"),
        fun _ => some (.ok ⟨true, some 0, [98], []⟩), []⟩
    let host := script.host
    let hook := (formatSaved (hookedWorkspace (.text "true")) document).run host []
    let formatted :=
      (format { hookedWorkspace (.text "true") with documents := [document] }).run host []
    (FollowsSave host (hookedWorkspace (.text "true")) document ∧
      formatted.trace = ⟨.save document, some (.ok ())⟩ :: hook.trace ∧
      hook.value = some (.failed "gone")) ∧
    (formatSaved (hookedWorkspace (.text "TRUE")) document).run host [] = ⟨some .skipped, [], []⟩ := by
  intro document script host hook formatted
  have follows := (formatSaved_follows (hookedWorkspace (.text "true")) document).1
    ⟨.inr rfl, rfl⟩ host
  have saves : Saving host (hookedWorkspace (.text "true")) document []
      [⟨.save document, some (.ok ())⟩] [] := .saved (by decide +kernel) rfl rfl
  have trace : formatted.trace = ⟨.save document, some (.ok ())⟩ :: hook.trace :=
    congrArg Run.trace (follows.run_eq [] [] _ [] saves)
  have idle : ¬ HookApplies (hookedWorkspace (.text "TRUE")) document := by
    rintro ⟨on, -⟩
    revert on
    decide
  exact ⟨⟨follows, trace, by decide +kernel⟩,
    (formatSaved_follows (hookedWorkspace (.text "TRUE")) document).2 idle host []⟩

end Command

end EditorBridge
