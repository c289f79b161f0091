import EditorBridge.Command.Format
import EditorBridge.Proofs.Program.Hosts

/-!
# The trace of cleaning a document

Cleaning saves, runs the tool and replaces, in this order, and the first of them that fails is the
last. `Cleans` lists the traces that this allows, without reference to the program.

## Main statements

`goes_formatDocument`: every way of formatting a document is one of these traces and one
notification behind it.

`formatDocument_formats`: the same of a run under a host that answers, with what follows for
success and for replacements.
-/

namespace EditorBridge

/-- What was attempted was a success. -/
def Event.succeeded : Event → Bool
  | ⟨.save _, some (.ok _)⟩ | ⟨.replace _ _, some (.ok _)⟩ => true
  | ⟨.run _, some (.ok output)⟩ => output.success
  | _ => false

theorem Invocation.result_ok {invocation : Invocation} {answer : Except String Output}
    {text : String} (cleaned : invocation.result answer = .ok text) :
    ∃ output, answer = .ok output ∧ output.success = true ∧
      text = Text.decodeLossy output.stdout := by
  cases answer with
  | error reason => cases cleaned
  | ok output =>
    simp only [Invocation.result] at cleaned
    split at cleaned
    next success => exact ⟨output, rfl, success, (Except.ok.inj cleaned).symm⟩
    next => cases cleaned

/-- Only a successful process gives a text. -/
theorem Invocation.succeeded_of_result_ok {invocation : Invocation}
    {answer : Except String Output} {text : String}
    (cleaned : invocation.result answer = .ok text) :
    Event.succeeded ⟨.run invocation.call, some answer⟩ = true := by
  obtain ⟨output, rfl, success, -⟩ := Invocation.result_ok cleaned
  exact success

/-- Only an unsuccessful process gives a failure. -/
theorem Invocation.not_succeeded_of_result_error {invocation : Invocation}
    {answer : Except String Output} {failure : ToolFailure}
    (failed : invocation.result answer = .error failure) :
    Event.succeeded ⟨.run invocation.call, some answer⟩ = false := by
  cases answer with
  | error reason => rfl
  | ok output =>
    simp only [Invocation.result] at failed
    split at failed
    next => cases failed
    next unsuccessful => exact Bool.eq_false_iff.mpr unsuccessful

theorem Outcome.notification?_ofError (error : Error) :
    (Outcome.ofError error).notification? = some ⟨.error, error.message⟩ := by
  unfold Outcome.ofError
  split <;> rfl

theorem Outcome.isSuccess_ofError (error : Error) :
    (Outcome.ofError error).isSuccess = false := by
  unfold Outcome.ofError
  split <;> rfl

theorem Outcome.exists_notification_ofResult (result : Except Error String) :
    ∃ notification, (Outcome.ofResult result).notification? = some notification := by
  cases result with
  | ok message => exact ⟨_, rfl⟩
  | error error => exact ⟨_, Outcome.notification?_ofError error⟩

namespace Command

/-- The document has to be saved before it is cleaned. -/
def SaveNeeded (document : Document) (save : Bool) : Prop :=
  save = true ∧ document.path.isSome = true

/-- The buffer stays as it is: the tool writes the file itself, or there is nothing to change. -/
def Kept (workspace : Workspace) (document : Document) (output : String) : Prop :=
  (workspace.config.isOn .outputInPlace = true ∧ document.path.isSome = true) ∨
    output = document.text

/-- Saving was not needed, or went well. -/
inductive Saved (document : Document) (save : Bool) : List Event → Prop
  | unneeded : ¬ SaveNeeded document save → Saved document save []
  | saved : SaveNeeded document save → Saved document save [⟨.save document, some (.ok ())⟩]

/-- The requests of cleaning a document with their answers, and the outcome they lead to. -/
inductive Cleans (workspace : Workspace) (document : Document) (save : Bool) :
    List Event → Outcome → Prop
  | unresolved :
      workspace.config.interpreter? = none →
      Cleans workspace document save [] (.configError Error.interpreterNotFound.message)
  | unsaved {interpreter : Path} {error : Error} :
      workspace.config.interpreter? = some interpreter → SaveNeeded document save →
      Cleans workspace document save [⟨.save document, some (.error error)⟩] (.ofError error)
  | uncleaned {interpreter : Path} {saves : List Event} {answer : Except String Output}
      {failure : ToolFailure} :
      workspace.config.interpreter? = some interpreter → Saved document save saves →
      (cleaning workspace interpreter document).result answer = .error failure →
      Cleans workspace document save
        (saves ++ [⟨.run (cleaning workspace interpreter document).call, some answer⟩])
        (.failed failure.message)
  | kept {interpreter : Path} {saves : List Event} {answer : Except String Output}
      {output : String} :
      workspace.config.interpreter? = some interpreter → Saved document save saves →
      (cleaning workspace interpreter document).result answer = .ok output →
      Kept workspace document output →
      Cleans workspace document save
        (saves ++ [⟨.run (cleaning workspace interpreter document).call, some answer⟩])
        (.succeeded (formattedMessage document))
  | unreplaced {interpreter : Path} {saves : List Event} {answer : Except String Output}
      {output : String} {error : Error} :
      workspace.config.interpreter? = some interpreter → Saved document save saves →
      (cleaning workspace interpreter document).result answer = .ok output →
      ¬ Kept workspace document output →
      Cleans workspace document save
        (saves ++ [⟨.run (cleaning workspace interpreter document).call, some answer⟩,
          ⟨.replace document output, some (.error error)⟩])
        (.ofError error)
  | replaced {interpreter : Path} {saves : List Event} {answer : Except String Output}
      {output : String} :
      workspace.config.interpreter? = some interpreter → Saved document save saves →
      (cleaning workspace interpreter document).result answer = .ok output →
      ¬ Kept workspace document output →
      Cleans workspace document save
        (saves ++ [⟨.run (cleaning workspace interpreter document).call, some answer⟩,
          ⟨.replace document output, some (.ok ())⟩])
        (.succeeded (formattedMessage document))

/-! ### Ways of the steps -/

theorem writesFile_eq (workspace : Workspace) (document : Document) :
    writesFile workspace document =
      (workspace.config.isOn .outputInPlace && document.path.isSome) := by
  simp only [writesFile, CleanOptions.writtenFile?, Config.cleanOptions, Target.ofDocument]
  by_cases inPlace : workspace.config.isOn .outputInPlace = true
  · cases document.path <;> simp [inPlace, Target.path?]
  · simp [inPlace]

theorem keeps_iff (workspace : Workspace) (document : Document) (output : String) :
    (writesFile workspace document || output == document.text) = true ↔
      Kept workspace document output := by
  simp only [writesFile_eq, Kept, Bool.or_eq_true, Bool.and_eq_true, beq_iff_eq]

/-- Saving first is one request or none. -/
theorem goes_saveFirst {save : Bool} {document : Document} {trace : List Event}
    {ending : Option (Except Error Unit)} (goes : (saveFirst save document).Goes trace ending) :
    (SaveNeeded document save ∧ trace = [⟨.save document, ending⟩]) ∨
      (¬ SaveNeeded document save ∧ trace = [] ∧ ending = some (.ok ())) := by
  by_cases needed : (save && document.path.isSome) = true
  · have asks : saveFirst save document = Program.request (.save document) := if_pos needed
    rw [asks] at goes
    exact .inl ⟨Bool.and_eq_true_iff.mp needed, (Program.goes_request ..).mp goes⟩
  · have ends : saveFirst save document = .done (.ok ()) := if_neg needed
    rw [ends] at goes
    exact .inr ⟨fun wanted => needed (Bool.and_eq_true_iff.mpr wanted),
      (Program.goes_done ..).mp goes⟩

/-- Applying the output is one request or none. -/
theorem goes_applyOutput {workspace : Workspace} {document : Document} {output : String}
    {trace : List Event} {ending : Option (Except Error Unit)}
    (goes : (applyOutput workspace document output).Goes trace ending) :
    (Kept workspace document output ∧ trace = [] ∧ ending = some (.ok ())) ∨
      (¬ Kept workspace document output ∧ trace = [⟨.replace document output, ending⟩]) := by
  by_cases kept : (writesFile workspace document || output == document.text) = true
  · have ends : applyOutput workspace document output = .done (.ok ()) := if_pos kept
    rw [ends] at goes
    exact .inl ⟨(keeps_iff ..).mp kept, (Program.goes_done ..).mp goes⟩
  · have asks : applyOutput workspace document output =
        Program.request (.replace document output) := if_neg kept
    rw [asks] at goes
    exact .inr ⟨fun same => kept ((keeps_iff ..).mpr same), (Program.goes_request ..).mp goes⟩

/-- Every way of cleaning that comes to a result is one of the traces listed. -/
theorem goes_clean {workspace : Workspace} {document : Document} {save : Bool}
    {trace : List Event} {result : Except Error String}
    (goes : (clean workspace document save).Goes trace (some result)) :
    Cleans workspace document save trace (.ofResult result) := by
  unfold clean at goes
  split at goes
  next missing =>
    obtain ⟨rfl, same⟩ := (Program.goes_done ..).mp goes
    cases same
    exact .unresolved missing
  next interpreter resolved =>
    -- The buffer is saved, or the failure of saving it is the end.
    rcases (Program.goes_bind ..).mp goes with
      ⟨-, missing⟩ | ⟨saving, saves, afterSaves, rfl, first, afterSaving⟩
    · cases missing
    rcases saving with error | _
    · obtain ⟨rfl, same⟩ := (Program.goes_done ..).mp afterSaving
      cases same
      rcases goes_saveFirst first with ⟨needed, rfl⟩ | ⟨-, -, absurd⟩
      · exact .unsaved resolved needed
      · cases absurd
    have saved : Saved document save saves := by
      rcases goes_saveFirst first with ⟨needed, rfl⟩ | ⟨unneeded, rfl, -⟩
      · exact .saved needed
      · exact .unneeded unneeded
    -- The tool gives an output, or its failure is the end.
    rcases (Program.goes_bind ..).mp afterSaving with
      ⟨-, missing⟩ | ⟨produced, calls, afterCalls, rfl, second, afterCalling⟩
    · cases missing
    obtain ⟨_ | answer, rfl, same⟩ := (Program.goes_invoke ..).mp second
    · cases same
    have cleaned := Option.some.inj same
    rcases produced with failure | output
    · obtain ⟨rfl, same⟩ := (Program.goes_done ..).mp afterCalling
      cases same
      exact .uncleaned resolved saved cleaned.symm
    -- The buffer keeps its text, is given the output, or the failure of that is the end.
    rcases (Program.goes_bind ..).mp afterCalling with
      ⟨-, missing⟩ | ⟨applying, replaces, last, rfl, third, afterApplying⟩
    · cases missing
    rcases goes_applyOutput third with ⟨kept, rfl, same⟩ | ⟨changed, rfl⟩
    · cases same
      obtain ⟨rfl, same⟩ := (Program.goes_done ..).mp afterApplying
      cases same
      exact .kept resolved saved cleaned.symm kept
    · rcases applying with error | _
      · obtain ⟨rfl, same⟩ := (Program.goes_done ..).mp afterApplying
        cases same
        exact .unreplaced resolved saved cleaned.symm changed
      · obtain ⟨rfl, same⟩ := (Program.goes_done ..).mp afterApplying
        cases same
        exact .replaced resolved saved cleaned.symm changed

/-- Every way of formatting a document that comes to an outcome is one of the traces listed, with
the notification of the outcome behind it. -/
theorem goes_formatDocument {workspace : Workspace} {document : Document} {save : Bool}
    {trace : List Event} {outcome : Outcome}
    (goes : (formatDocument workspace document save).Goes trace (some outcome)) :
    ∃ work notification, Cleans workspace document save work outcome ∧
      outcome.notification? = some notification ∧
      trace = work ++ [⟨.notify notification, some ()⟩] := by
  rcases (Program.goes_bind ..).mp goes with ⟨-, missing⟩ | ⟨result, work, last, rfl, first, goes⟩
  · cases missing
  obtain ⟨notification, told⟩ := Outcome.exists_notification_ofResult result
  rcases (Program.goes_report ..).mp goes with ⟨silent, -⟩ | ⟨other, _ | _, same, rfl, ending⟩
  · rw [told] at silent
    cases silent
  · cases ending
  · cases ending
    exact ⟨work, other, goes_clean first, same, rfl⟩

/-! ### Ways without an outcome -/

/-- Cleaning that is ended has replaced nothing. -/
theorem goes_clean_ended {workspace : Workspace} {document : Document} {save : Bool}
    {trace : List Event} (goes : (clean workspace document save).Goes trace none) :
    trace.filterMap Event.replacement? = [] := by
  unfold clean at goes
  split at goes
  next => cases goes
  next interpreter resolved =>
    rcases (Program.goes_bind ..).mp goes with
      ⟨first, -⟩ | ⟨saving, saves, afterSaves, rfl, first, afterSaving⟩
    · rcases goes_saveFirst first with ⟨-, rfl⟩ | ⟨-, rfl, -⟩ <;> rfl
    -- Only the last request can replace anything, and without an answer it does not.
    have unchanged : saves.filterMap Event.replacement? = [] := by
      rcases goes_saveFirst first with ⟨-, rfl⟩ | ⟨-, rfl, -⟩ <;> rfl
    rcases saving with error | _
    · cases afterSaving
    rcases (Program.goes_bind ..).mp afterSaving with
      ⟨second, -⟩ | ⟨produced, calls, afterCalls, rfl, second, afterCalling⟩
    · obtain ⟨answer, rfl, -⟩ := (Program.goes_invoke ..).mp second
      simp [unchanged, Event.replacement?]
    obtain ⟨answer, rfl, -⟩ := (Program.goes_invoke ..).mp second
    rcases produced with failure | output
    · cases afterCalling
    rcases (Program.goes_bind ..).mp afterCalling with
      ⟨third, -⟩ | ⟨applying, replaces, last, rfl, third, afterApplying⟩
    · rcases goes_applyOutput third with ⟨-, -, missing⟩ | ⟨-, rfl⟩
      · cases missing
      · simp [unchanged, Event.replacement?]
    · cases applying <;> cases afterApplying

theorem always_saveFirst {condition : Event → Prop} {save : Bool} {document : Document}
    (saves : SaveNeeded document save → ∀ answer, condition ⟨.save document, answer⟩) :
    (saveFirst save document).Always condition := by
  intro trace ending goes event member
  rcases goes_saveFirst goes with ⟨needed, rfl⟩ | ⟨-, rfl, -⟩
  · obtain rfl := List.mem_singleton.mp member
    exact saves needed ending
  · cases member

theorem always_applyOutput {condition : Event → Prop} {workspace : Workspace} {document : Document}
    {output : String}
    (replaces : ¬ Kept workspace document output →
      ∀ answer, condition ⟨.replace document output, answer⟩) :
    (applyOutput workspace document output).Always condition := by
  intro trace ending goes event member
  rcases goes_applyOutput goes with ⟨-, rfl, -⟩ | ⟨changed, rfl⟩
  · cases member
  · obtain rfl := List.mem_singleton.mp member
    exact replaces changed ending

/-- What holds of saving, calling and replacing holds of all events of cleaning. -/
theorem always_clean {condition : Event → Prop} {workspace : Workspace} {document : Document}
    {save : Bool} (saves : SaveNeeded document save → ∀ answer, condition ⟨.save document, answer⟩)
    (runs : ∀ interpreter answer,
      condition ⟨.run (cleaning workspace interpreter document).call, answer⟩)
    (replaces : ∀ output, ¬ Kept workspace document output →
      ∀ answer, condition ⟨.replace document output, answer⟩) :
    (clean workspace document save).Always condition := by
  unfold clean
  split
  next => exact Program.always_done _
  next interpreter _ =>
    refine Program.always_bind (always_saveFirst saves) fun saving => ?_
    cases saving with
    | error error => exact Program.always_done _
    | ok _ =>
      refine Program.always_bind (Program.always_invoke (runs interpreter)) fun produced => ?_
      cases produced with
      | error failure => exact Program.always_done _
      | ok output =>
        refine Program.always_bind (always_applyOutput (replaces output)) fun applying => ?_
        cases applying <;> exact Program.always_done _

/-- Formatting that is ended before its notification has changed and told nothing. -/
theorem goes_formatDocument_ended {workspace : Workspace} {document : Document} {save : Bool}
    {trace : List Event} (goes : (formatDocument workspace document save).Goes trace none)
    (heard : ∀ notification, (⟨.notify notification, none⟩ : Event) ∉ trace) :
    trace.filterMap Event.replacement? = [] ∧ trace.filterMap Event.notification? = [] := by
  rcases (Program.goes_bind ..).mp goes with ⟨first, -⟩ | ⟨result, work, last, rfl, -, second⟩
  · have silent : (clean workspace document save).Always (·.notification? = none) :=
      always_clean (fun _ _ => rfl) (fun _ _ => rfl) fun _ _ _ => rfl
    exact ⟨goes_clean_ended first, List.filterMap_eq_nil_iff.mpr (silent trace none first)⟩
  · rcases (Program.goes_report ..).mp second with ⟨-, -, ending⟩ | ⟨told, answer, -, rfl, ending⟩
    · cases ending
    · cases answer with
      | none => exact absurd (List.mem_append_right work List.mem_cons_self) (heard told)
      | some _ => cases ending

/-! ### What follows -/

theorem Saved.all_succeeded {document : Document} {save : Bool} {saves : List Event}
    (saved : Saved document save saves) : saves.all Event.succeeded = true := by
  cases saved <;> rfl

theorem Saved.no_replacement {document : Document} {save : Bool} {saves : List Event}
    (saved : Saved document save saves) : saves.filterMap Event.replacement? = [] := by
  cases saved <;> rfl

theorem Saved.no_notification {document : Document} {save : Bool} {saves : List Event}
    (saved : Saved document save saves) : saves.filterMap Event.notification? = [] := by
  cases saved <;> rfl

section

variable {workspace : Workspace} {document : Document} {save : Bool} {work : List Event}
  {outcome : Outcome}

/-- The outcome is a success when the interpreter is set and all that was attempted succeeded. -/
theorem Cleans.isSuccess (cleans : Cleans workspace document save work outcome) :
    outcome.isSuccess =
      (workspace.config.interpreter?.isSome && work.all Event.succeeded) := by
  cases cleans with
  | unresolved missing => simp [missing, Outcome.isSuccess]
  | unsaved resolved needed => simp [resolved, Event.succeeded, Outcome.isSuccess_ofError]
  | uncleaned resolved saved failed =>
    have last := Invocation.not_succeeded_of_result_error failed
    simp [resolved, last, Outcome.isSuccess]
  | kept resolved saved cleaned _ =>
    have last := Invocation.succeeded_of_result_ok cleaned
    simp [resolved, last, saved.all_succeeded, Outcome.isSuccess]
  | unreplaced resolved saved cleaned _ =>
    simp [resolved, Event.succeeded, Outcome.isSuccess_ofError]
  | @replaced _ _ _ output resolved saved cleaned _ =>
    have ran := Invocation.succeeded_of_result_ok cleaned
    have last : Event.succeeded ⟨.replace document output, some (.ok ())⟩ = true := rfl
    simp [resolved, ran, last, saved.all_succeeded, Outcome.isSuccess]

/-- Without success no replacement took effect. -/
theorem Cleans.no_replacement (cleans : Cleans workspace document save work outcome)
    (failed : outcome.isSuccess = false) : work.filterMap Event.replacement? = [] := by
  cases cleans with
  | unresolved => rfl
  | unsaved => rfl
  | uncleaned _ saved _ => simp [saved.no_replacement, Event.replacement?]
  | kept => cases failed
  | unreplaced _ saved _ _ => simp [saved.no_replacement, Event.replacement?]
  | replaced => cases failed

/-- Cleaning itself tells the user nothing. -/
theorem Cleans.no_notification (cleans : Cleans workspace document save work outcome) :
    work.filterMap Event.notification? = [] := by
  cases cleans with
  | unresolved => rfl
  | unsaved => rfl
  | uncleaned _ saved _ => simp [saved.no_notification, Event.notification?]
  | kept _ saved _ _ => simp [saved.no_notification, Event.notification?]
  | unreplaced _ saved _ _ => simp [saved.no_notification, Event.notification?]
  | replaced _ saved _ _ => simp [saved.no_notification, Event.notification?]

end

/-! ### Runs -/

section

variable {σ : Type} {host : Host σ} {workspace : Workspace} {document : Document} {save : Bool}
  {state : σ}

/-- A document whose formatting is ended has not been replaced, and nothing was told about it. -/
theorem formatDocument_ended (hears : host.Hears)
    (ended : ((formatDocument workspace document save).run host state).value = none) :
    ((formatDocument workspace document save).run host state).trace.filterMap Event.replacement? =
        [] ∧
      ((formatDocument workspace document save).run host state).trace.filterMap
        Event.notification? = [] := by
  have goes := (formatDocument workspace document save).run_goes host state
  rw [ended] at goes
  -- An unheard notification would be an answer that the host does not give.
  refine goes_formatDocument_ended goes fun notification member => ?_
  obtain ⟨before, given⟩ := Program.run_gave _ host state _ member
  cases (hears notification before).symm.trans given

/-- A run of formatting that does not succeed has replaced nothing. -/
theorem formatDocument_unreplaced (hears : host.Hears)
    (failed : ∀ outcome, ((formatDocument workspace document save).run host state).value =
      some outcome → outcome.isSuccess = false) :
    ((formatDocument workspace document save).run host state).trace.filterMap Event.replacement? =
      [] := by
  have goes := (formatDocument workspace document save).run_goes host state
  cases found : ((formatDocument workspace document save).run host state).value with
  | none => exact (formatDocument_ended hears found).1
  | some outcome =>
    rw [found] at goes
    obtain ⟨work, notification, cleans, -, trace⟩ := goes_formatDocument goes
    rw [trace, List.filterMap_append, cleans.no_replacement (failed outcome found)]
    rfl

end

/-! ### Main theorem -/

/-- A run of formatting a document: a trace of cleaning, and the one notification of the outcome
behind it. -/
def Formats {σ : Type} (workspace : Workspace) (document : Document) (save : Bool)
    (run : Run σ Outcome) : Prop :=
  ∃ work outcome notification,
    run.value = some outcome ∧
    outcome.notification? = some notification ∧
    run.trace = work ++ [⟨.notify notification, some ()⟩] ∧
    Cleans workspace document save work outcome ∧
    work.filterMap Event.notification? = [] ∧
    outcome.isSuccess = (workspace.config.interpreter?.isSome && work.all Event.succeeded) ∧
    (outcome.isSuccess = false → work.filterMap Event.replacement? = [])

/-- Whatever a host answers, as long as it answers, formatting a document leaves exactly the trace
of cleaning it and one notification. It succeeds when all that it attempts succeeds, and otherwise
nothing has been replaced. -/
theorem formatDocument_formats {σ : Type} (host : Host σ) (answers : host.Answers)
    (workspace : Workspace) (document : Document) (save : Bool) (state : σ) :
    Formats workspace document save ((formatDocument workspace document save).run host state) := by
  have goes := (formatDocument workspace document save).run_goes host state
  have ends := (formatDocument workspace document save).run_value_isSome answers state
  obtain ⟨outcome, value⟩ := Option.isSome_iff_exists.mp ends
  rw [value] at goes
  obtain ⟨work, notification, cleans, told, trace⟩ := goes_formatDocument goes
  exact ⟨work, outcome, notification, value, told, trace, cleans, cleans.no_notification,
    cleans.isSuccess, cleans.no_replacement⟩

/-- A workspace in which only the interpreter is set. -/
def plainWorkspace (documents : List Document) : Workspace where
  tool := "miko"
  config
    | .interpreterPath => some (.text "python")
    | _ => none
  documents := documents

/-- An error of replacing that counts as misconfiguration. -/
theorem formatDocument_formats_unreplaced :
    let document : Document := ⟨some ⟨"/w/a.py"⟩, "a", "python", none⟩
    let script : Script :=
      ⟨fun _ => .ok (), fun _ _ => .error (.invalidConfig "read-only"),
        fun _ => some (.ok ⟨true, some 0, [98], []⟩), []⟩
    let workspace := plainWorkspace [document]
    let run := (formatDocument workspace document true).run script.host []
    script.host.Answers ∧ Formats workspace document true run ∧
      run.value = some (.configError "Invalid configuration: read-only") := by
  intro document script workspace run
  have answers : script.host.Answers := script.host_answers fun _ => rfl
  exact ⟨answers, formatDocument_formats script.host answers workspace document true [],
    by decide +kernel⟩

end Command

end EditorBridge
