import EditorBridge.Proofs.Command.Cleaning
import EditorBridge.Proofs.Command.Interleaving
import EditorBridge.Session.Journal

/-!
# Formatting a document again

What cleaning a titled document asks of the tool does not depend on its text. So when the document is
formatted again after its buffer was given the output, and can be saved with it, the tool is called as
before, prints the same output, and that is now the text of the buffer: there is nothing left to change.
When the buffer was not changed, the second run is the first one over again.

## Main statements

`formatDocument_again`: the second run of one document.

`gave_save_of_success`: a second run that succeeds has saved the document with its new text.

`formatAll_shares`: what all documents at once come to, from the runs of each of them.
-/

namespace EditorBridge

/-- The document as a replacement has left it. -/
def Event.renewed? : Event → Option Document
  | ⟨.replace document content, some (.ok _)⟩ => some { document with text := content }
  | _ => none

namespace Command

/-- The content that a trace gives the buffer of a document. -/
def contentOf? (trace : List Event) : Option String :=
  (trace.filterMap Event.replacement?).head?.map Replacement.content

/-- The document once a trace has taken effect on its buffer. -/
def rewritten (document : Document) (trace : List Event) : Document :=
  { document with text := (contentOf? trace).getD document.text }

/-- A later run saves and calls as the first one did and comes to the same outcome, but it replaces
nothing. -/
structure Echoes {σ : Type} (first later : Run σ Outcome) : Prop where
  value : later.value = first.value
  saved : (Journal.ofTrace later.trace).saved = (Journal.ofTrace first.trace).saved
  calls : (Journal.ofTrace later.trace).calls = (Journal.ofTrace first.trace).calls
  replacements : (Journal.ofTrace later.trace).replacements = []

variable {σ : Type} {host : Host σ} {workspace : Workspace} {document : Document}

theorem rewritten_of_unreplaced {trace : List Event}
    (unchanged : trace.filterMap Event.replacement? = []) : rewritten document trace = document := by
  simp [rewritten, contentOf?, unchanged]

/-! ### One document -/

theorem cleaning_withText (workspace : Workspace) (interpreter : Path)
    (titled : document.path.isSome = true) (text : String) :
    cleaning workspace interpreter { document with text := text } =
      cleaning workspace interpreter document := by
  obtain ⟨path, named⟩ := Option.isSome_iff_exists.mp titled
  have target : Target.ofDocument { document with text := text } = Target.ofDocument document := by
    simp [Target.ofDocument, named]
  simp only [cleaning, target]
  rfl

/-- When the tool succeeds and the buffer is to stay as it is, this is a way of formatting. -/
theorem goes_formatDocument_kept (document : Document) {interpreter : Path}
    {answer : Except String Output} {output : String}
    (resolved : workspace.config.interpreter? = some interpreter)
    (titled : document.path.isSome = true)
    (cleaned : (cleaning workspace interpreter document).result answer = .ok output)
    (kept : Kept workspace document output) :
    (formatDocument workspace document true).Goes
      [⟨.save document, some (.ok ())⟩,
        ⟨.run (cleaning workspace interpreter document).call, some answer⟩,
        ⟨.notify ⟨.info, formattedMessage document⟩, some ()⟩]
      (some (.succeeded (formattedMessage document))) := by
  have applies : applyOutput workspace document output = .done (.ok ()) :=
    if_pos ((keeps_iff ..).mpr kept)
  have saves : saveFirst true document = Program.request (.save document) :=
    if_pos (by simpa using titled)
  unfold formatDocument clean
  simp only [resolved, saves]
  refine .answered (.answered ?_)
  simp only [Program.bind, cleaned, applies]
  exact .answered (.start _)

/-- The one way on which the buffer is given another text. -/
theorem goes_formatDocument_changed {trace : List Event} {outcome : Outcome}
    (goes : (formatDocument workspace document true).Goes trace (some outcome))
    (titled : document.path.isSome = true) (changed : trace.filterMap Event.replacement? ≠ []) :
    ∃ interpreter answer output, workspace.config.interpreter? = some interpreter ∧
      (cleaning workspace interpreter document).result answer = .ok output ∧
      outcome = .succeeded (formattedMessage document) ∧
      trace = [⟨.save document, some (.ok ())⟩,
        ⟨.run (cleaning workspace interpreter document).call, some answer⟩,
        ⟨.replace document output, some (.ok ())⟩,
        ⟨.notify ⟨.info, formattedMessage document⟩, some ()⟩] := by
  obtain ⟨work, notification, cleans, told, rfl⟩ := goes_formatDocument goes
  cases cleans with
  | @replaced interpreter saves answer output resolved saved cleaned =>
    cases told
    cases saved with
    | unneeded spared => exact absurd ⟨rfl, titled⟩ spared
    | saved => exact ⟨interpreter, answer, output, resolved, cleaned, rfl, rfl⟩
  | unresolved => exact absurd rfl changed
  | unsaved => exact absurd rfl changed
  | uncleaned _ saved | kept _ saved | unreplaced _ saved =>
    simp [saved.no_replacement, Event.replacement?] at changed

/-- Under a steady host a run does not depend on the state in which it begins. -/
theorem run_formatDocument_eq (steady : host.Steady) (workspace : Workspace) (document : Document)
    (state elsewhere : σ) :
    ((formatDocument workspace document true).run host state).trace =
        ((formatDocument workspace document true).run host elsewhere).trace ∧
      ((formatDocument workspace document true).run host state).value =
        ((formatDocument workspace document true).run host elsewhere).value := by
  apply goes_formatDocument_eq_run steady (Program.run_goes ..)
  exact Program.run_gave _ host state

/-- The one run in which the buffer is given another text. -/
theorem run_formatDocument_changed (hears : host.Hears) (titled : document.path.isSome = true)
    {state : σ} :
    let run := (formatDocument workspace document true).run host state
    run.trace.filterMap Event.replacement? ≠ [] →
      ∃ interpreter answer output, workspace.config.interpreter? = some interpreter ∧
        (cleaning workspace interpreter document).result answer = .ok output ∧
        run.value = some (.succeeded (formattedMessage document)) ∧
        run.trace = [⟨.save document, some (.ok ())⟩,
          ⟨.run (cleaning workspace interpreter document).call, some answer⟩,
          ⟨.replace document output, some (.ok ())⟩,
          ⟨.notify ⟨.info, formattedMessage document⟩, some ()⟩] := by
  intro run changed
  obtain ⟨outcome, value⟩ : ∃ outcome, run.value = some outcome := by
    rw [← Option.ne_none_iff_exists']
    exact fun ended => changed (formatDocument_ended hears ended).1
  have goes := (formatDocument workspace document true).run_goes host state
  rw [value] at goes
  obtain ⟨interpreter, answer, output, resolved, cleaned, rfl, trace⟩ :=
    goes_formatDocument_changed goes titled changed
  exact ⟨interpreter, answer, output, resolved, cleaned, value, trace⟩

/-- A run that gives the document another text has saved it before, and succeeds. -/
theorem renewed_formatDocument (hears : host.Hears) (titled : document.path.isSome = true)
    (state : σ) :
    let run := (formatDocument workspace document true).run host state
    ∀ renewed ∈ run.trace.filterMap Event.renewed?,
      renewed = rewritten document run.trace ∧
        run.value = some (.succeeded (formattedMessage document)) ∧
        host.Gave ⟨.save document, some (.ok ())⟩ := by
  intro run renewed member
  have changed : run.trace.filterMap Event.replacement? ≠ [] := by
    obtain ⟨event, present, renews⟩ := List.mem_filterMap.mp member
    intro unchanged
    have replaces := List.filterMap_eq_nil_iff.mp unchanged event present
    unfold Event.renewed? at renews
    split at renews
    next => cases replaces
    next => cases renews
  obtain ⟨interpreter, answer, output, -, -, value, trace⟩ :=
    run_formatDocument_changed hears titled changed
  have gave := (formatDocument workspace document true).run_gave host state
  rw [trace] at gave
  refine ⟨?_, value, gave _ List.mem_cons_self⟩
  rw [trace] at member ⊢
  exact List.mem_singleton.mp member

/-- Formatting a titled document succeeds only after the document was saved. -/
theorem gave_save_of_success (titled : document.path.isSome = true) {state : σ} {outcome : Outcome}
    (value : ((formatDocument workspace document true).run host state).value = some outcome)
    (success : outcome.isSuccess = true) : host.Gave ⟨.save document, some (.ok ())⟩ := by
  have goes := (formatDocument workspace document true).run_goes host state
  rw [value] at goes
  obtain ⟨work, notification, cleans, -, trace⟩ := goes_formatDocument goes
  refine (formatDocument workspace document true).run_gave host state _ ?_
  rw [trace]
  refine List.mem_append_left _ ?_
  have first : ∀ {saves}, Saved document true saves → ⟨.save document, some (.ok ())⟩ ∈ saves := by
    rintro _ (spared | -)
    · exact absurd ⟨rfl, titled⟩ spared
    · exact List.mem_singleton_self _
  cases cleans with
  | unresolved | uncleaned => cases success
  | unsaved | unreplaced => exact absurd success (by simp [Outcome.isSuccess_ofError])
  | kept _ saved | replaced _ saved => exact List.mem_append_left _ (first saved)

/-- The document is formatted again after its first run has taken effect on its buffer. -/
theorem formatDocument_again (steady : host.Steady) (titled : document.path.isSome = true)
    (state elsewhere : σ) :
    let first := (formatDocument workspace document true).run host state
    (∀ renewed ∈ first.trace.filterMap Event.renewed?,
      host.Gave ⟨.save renewed, some (.ok ())⟩) →
    Echoes first
      ((formatDocument workspace (rewritten document first.trace) true).run host elsewhere) := by
  intro first resaves
  have hears := steady.responsive.hears
  by_cases unchanged : first.trace.filterMap Event.replacement? = []
  · -- The buffer is what it was, and so is the run.
    obtain ⟨trace, value⟩ := run_formatDocument_eq steady workspace document elsewhere state
    rw [rewritten_of_unreplaced unchanged]
    exact ⟨value, by rw [trace], by rw [trace], by rw [trace]; exact unchanged⟩
  · obtain ⟨interpreter, answer, output, resolved, cleaned, value, trace⟩ :=
      run_formatDocument_changed hears titled unchanged
    have gave := (formatDocument workspace document true).run_gave host state
    rw [trace] at gave
    -- The same process now prints what the buffer already holds.
    have text : rewritten document first.trace = { document with text := output } := by
      rw [trace]
      rfl
    rw [text]
    have same := cleaning_withText workspace interpreter titled output
    have way := goes_formatDocument_kept { document with text := output } resolved titled
      (same ▸ cleaned) (.inr rfl)
    rw [same] at way
    have saved : host.Gave ⟨.save { document with text := output }, some (.ok ())⟩ := by
      apply resaves
      rw [trace]
      exact List.mem_singleton_self _
    have given : ∀ event ∈ ([⟨.save { document with text := output }, some (.ok ())⟩,
        ⟨.run (cleaning workspace interpreter document).call, some answer⟩,
        ⟨.notify ⟨.info, formattedMessage document⟩, some ()⟩] : List Event), host.Gave event := by
      simp only [List.forall_mem_cons]
      exact ⟨saved, gave _ (by simp), ⟨state, hears _ state⟩, List.forall_mem_nil _⟩
    obtain ⟨later, ending⟩ := goes_formatDocument_eq_run steady way given elsewhere
    refine ⟨?_, ?_, ?_, ?_⟩
    · rw [← ending, value]
      rfl
    · rw [← later, trace]
      rfl
    · rw [← later, trace]
      rfl
    · rw [← later]
      rfl

/-! ### All documents -/

/-- Whatever the schedule, the outcomes are those of the documents alone, and what is read from the
trace is what is read from their runs, up to order, when nothing is read from notifications. -/
theorem formatAll_shares (steady : host.Steady) (schedule : List Turn) (workspace : Workspace)
    (state elsewhere : σ) :
    let alone := fun document => (formatDocument workspace document true).run host elsewhere
    (formatAll host schedule workspace state).value =
        some (workspace.documents.map fun document =>
          (alone document).value.getD (panicked document)) ∧
      ∀ {α : Type} (read : Event → Option α),
        (∀ notification answer, read ⟨.notify notification, answer⟩ = none) →
          ((formatAll host schedule workspace state).trace.filterMap read).Perm
            (workspace.documents.flatMap fun document => (alone document).trace.filterMap read) := by
  intro alone
  have started : (Pool.start workspace state).Sound host workspace := Pool.sound_start state
  have followed := Pool.sound_follow steady.responsive.hears started schedule
  have settled := Pool.settled_settle steady.responsive.hears followed
  unfold formatAll
  generalize ((Pool.start workspace state).follow host schedule).settle host = pool at settled ⊢
  -- The share of a worker is the run of its document alone.
  have share : ∀ index worker, pool.workers[index]? = some worker →
      eventsOf (.worker index) pool.trace = (alone worker.document).trace ∧
        worker.value? = (alone worker.document).value := by
    intro index worker found
    apply goes_formatDocument_eq_run steady (settled.goes index worker found)
    intro event member
    exact settled.gave _ (mem_of_mem_eventsOf member)
  constructor
  · apply congrArg some
    rw [settled.collected, ← settled.documents, List.map_map]
    apply List.map_congr_left
    intro worker member
    obtain ⟨index, found⟩ := List.mem_iff_getElem?.mp member
    simp only [Function.comp_apply, (share index worker found).2]
  · intro α read silent
    have quiet : ∀ worker : Worker, worker.collectorEvents.filterMap read = [] := by
      intro worker
      unfold Worker.collectorEvents panicReport
      cases worker.value? with
      | some outcome => rfl
      | none => simp [silent]
    have shares := settled.perm_shares read (fun worker => (alone worker.document).trace.filterMap read)
      fun index worker found => by rw [(share index worker found).1]
    simp only [quiet, List.append_nil] at shares
    rw [← settled.documents, List.flatMap_map]
    exact shares

end Command

end EditorBridge
