import EditorBridge.Proofs.Command.Repetition
import EditorBridge.Proofs.Session.Buffers
import EditorBridge.Proofs.Settings.CommandLine
import EditorBridge.Session.Stage

/-!
# Formatting again and again

Once titled documents were formatted, formatting them again in the same surroundings changes nothing:
each buffer either holds what the tool prints for its document, or whatever kept the document from being
formatted does so again. This is shown for one action behind another, and from that for any number of
them. It takes surroundings that save a document with its new text as well as with the old one: where
they do not, the second round fails at the save.

## Main statements

`Session.documents_formatAll`: the documents after all of them were formatted.

`Session.formatting_idempotent`: every later round of formatting repeats the first and changes nothing,
exactly when the documents that were given another text can be saved with it.

`Session.resaves_of_savesByName`: that is so wherever the text of a document does not matter for saving it.
-/

namespace EditorBridge

open Command

/-! ### Saving -/

/-- Whether saving goes well does not depend on the text of the document. -/
def Script.SavesByName (script : Script) : Prop :=
  ∀ (document : Document) (text : String),
    script.save { document with text := text } = script.save document

/-- Surroundings that are described by data answer every save in the same way. -/
theorem Staging.script_savesByName (staging : Staging) (answers : List (Except Error Bool)) :
    (staging.script answers).SavesByName :=
  fun _ _ => rfl

theorem Script.gave_save_iff {script : Script} {document : Document} {answer : Except Error Unit} :
    script.host.Gave ⟨.save document, some answer⟩ ↔ script.save document = answer :=
  ⟨fun ⟨_, given⟩ => Option.some.inj given, fun same => ⟨[], congrArg some same⟩⟩

/-! ### Replacements of distinct documents -/

namespace Session

variable {documents : List Document}

theorem applyAll_append (front back : List Replacement) (documents : List Document) :
    applyAll (front ++ back) documents = applyAll back (applyAll front documents) :=
  List.foldl_append

theorem applyAll_cons_of_unnamed {replacements : List Replacement} {document : Document}
    (unnamed : ∀ replacement ∈ replacements, document.path ≠ replacement.path)
    (documents : List Document) :
    applyAll replacements (document :: documents) = document :: applyAll replacements documents := by
  induction replacements generalizing documents with
  | nil => rfl
  | cons replacement rest ih =>
    obtain ⟨other, unnamed⟩ := List.forall_mem_cons.mp unnamed
    have first : setText replacement.path replacement.content (document :: documents) =
        document :: setText replacement.path replacement.content documents := if_neg other
    rw [applyAll, List.foldl_cons, first]
    exact ih unnamed _

/-- The replacements that bring a document to the content, if there is one. -/
def editsOf (content : Option String) (document : Document) : List Replacement :=
  content.toList.map fun content => ⟨document.path, content⟩

theorem applyAll_editsOf_cons (content : Option String) (document : Document)
    (rest : List Document) :
    applyAll (editsOf content document) (document :: rest) =
      { document with text := content.getD document.text } :: rest := by
  unfold editsOf
  cases content with
  | none => rfl
  | some content => simp [applyAll, setText]

/-- Where the paths are distinct, every document comes to its own text. -/
theorem applyAll_flatMap_editsOf (content : Document → Option String)
    (distinct : (documents.map Document.path).Nodup) :
    applyAll (documents.flatMap fun document => editsOf (content document) document) documents =
      documents.map fun document =>
        { document with text := (content document).getD document.text } := by
  induction documents with
  | nil => rfl
  | cons document rest ih =>
    obtain ⟨fresh, distinct⟩ := List.nodup_cons.mp distinct
    rw [List.flatMap_cons, applyAll_append, applyAll_editsOf_cons, List.map_cons, ← ih distinct]
    apply applyAll_cons_of_unnamed
    -- The later replacements are for the other documents.
    intro replacement member same
    obtain ⟨other, present, among⟩ := List.mem_flatMap.mp member
    obtain ⟨text, -, rfl⟩ := List.mem_map.mp among
    exact fresh (same ▸ List.mem_map_of_mem present)

theorem nodup_editsOf (content : Document → Option String)
    (distinct : (documents.map Document.path).Nodup) :
    ((documents.flatMap fun document => editsOf (content document) document).map
      Replacement.path).Nodup := by
  have fewer : ∀ document ∈ documents,
      ((editsOf (content document) document).map Replacement.path).Sublist [document.path] := by
    intro document _
    unfold editsOf
    cases content document with
    | none => exact List.nil_sublist _
    | some text => exact List.Sublist.refl _
  rw [List.map_flatMap]
  have some := List.Sublist.flatMap_right documents fewer
  rw [← List.map_eq_flatMap] at some
  exact distinct.sublist some

/-! ### One action -/

section Runs

variable {σ : Type} {host : Host σ} {workspace : Workspace}

/-- A run of one document replaces it by the content that it comes to, and nothing else. -/
theorem replacements_formatDocument (document : Document) (state : σ) :
    let trace := ((formatDocument workspace document true).run host state).trace
    trace.filterMap Event.replacement? = editsOf (contentOf? trace) document := by
  intro trace
  have goes := (formatDocument workspace document true).run_goes host state
  rcases goes_formatDocument_edits goes with
    unchanged | ⟨front, call, output, back, yields, silent, split⟩
  · simp only [editsOf, contentOf?, trace, unchanged]
    rfl
  · have replaced : trace.filterMap Event.replacement? =
        [⟨document.path, Text.decodeLossy output.stdout⟩] := by
      simp only [trace, split, List.filterMap_append, yields.before, List.filterMap_cons, silent]
      rfl
    simp only [editsOf, contentOf?, replaced]
    rfl

end Runs

/-- The run of one document in the surroundings of a session. -/
def alone (session : Session) (document : Document) : Run (List (Except Error Bool)) Outcome :=
  (formatDocument session.workspace document true).run session.script.host []

theorem journalOf_replacements_perm (action : Action) (trace : List Event) :
    (journalOf action trace).replacements.Perm (trace.filterMap Event.replacement?) := by
  cases action with
  | formatAll schedule => exact List.mergeSort_perm ..
  | activate | format | saved | openOverview | provide | render | ensureInstalled | install | invoke
  | probe | installTool => exact .refl _

/-- An action without a replacement leaves the workspace as it is. -/
theorem workspace_perform_of_unreplaced {session : Session} {action : Action}
    (unchanged : (session.perform action).trace.filterMap Event.replacement? = []) :
    (session.perform action).state.workspace = session.workspace := by
  have none : (journalOf action (session.runOf action).trace).replacements = [] := by
    apply List.Perm.eq_nil
    exact unchanged ▸ journalOf_replacements_perm action _
  simp only [perform, none]
  rfl

theorem value_formatAll (session : Session) (schedule : List Turn) :
    (session.perform (.formatAll schedule)).value =
      some (.outcomes (session.workspace.documents.map fun document =>
        (session.alone document).value.getD (panicked document))) := by
  have value := (formatAll_shares session.script.host_steady schedule session.workspace
    session.script.answers []).1
  exact congrArg (Option.map Reply.outcomes) value

theorem reads_formatAll (session : Session) (schedule : List Turn) {α : Type}
    (read : Event → Option α) (silent : ∀ notification answer,
      read ⟨.notify notification, answer⟩ = none) :
    ((session.perform (.formatAll schedule)).trace.filterMap read).Perm
      (session.workspace.documents.flatMap fun document =>
        (session.alone document).trace.filterMap read) :=
  (formatAll_shares session.script.host_steady schedule session.workspace session.script.answers
    []).2 read silent

/-- The documents after all of them were formatted: each is what its own run makes of it. -/
theorem documents_formatAll (session : Session) (schedule : List Turn)
    (distinct : (session.workspace.documents.map Document.path).Nodup) :
    (session.perform (.formatAll schedule)).state.workspace.documents =
      session.workspace.documents.map fun document =>
        rewritten document (session.alone document).trace := by
  have shares := session.reads_formatAll schedule Event.replacement? fun _ _ => rfl
  have each : (fun document => (session.alone document).trace.filterMap Event.replacement?) =
      fun document => editsOf (contentOf? (session.alone document).trace) document :=
    funext fun document => replacements_formatDocument document []
  rw [each] at shares
  rw [session.documents_perform _ distinct]
  exact (applyAll_perm shares (nodup_editsOf _ distinct) _).trans
    (applyAll_flatMap_editsOf _ distinct)

theorem format_nil {session : Session} (none : session.workspace.documents = []) :
    (session.perform .format).value = some (.outcome .skipped) ∧
      (session.perform .format).trace = [] := by
  have skips : Command.format session.workspace = .done .skipped := by simp [Command.format, none]
  simp only [perform, runOf, Action.runUnder, Program.runAs, skips]
  exact ⟨rfl, rfl⟩

/-- Formatting the active document is the run of that document. -/
theorem format_cons {session : Session} {document : Document} {rest : List Document}
    (active : session.workspace.documents = document :: rest) :
    (session.perform .format).value = (session.alone document).value.map .outcome ∧
      (session.perform .format).trace = (session.alone document).trace ∧
      (session.perform .format).state.workspace.documents =
        rewritten document (session.alone document).trace :: rest := by
  have formats : Command.format session.workspace =
      formatDocument session.workspace document true := by simp [Command.format, active]
  obtain ⟨trace, value⟩ := run_formatDocument_eq session.script.host_steady session.workspace
    document session.script.answers []
  have left : (session.perform .format).trace = (session.alone document).trace := by
    simp only [perform, runOf, Action.runUnder, Program.runAs, formats, trace]
    rfl
  refine ⟨?_, left, ?_⟩
  · simp only [perform, runOf, Action.runUnder, Program.runAs, formats, value]
    rfl
  · change applyAll ((session.perform .format).trace.filterMap Event.replacement?)
      session.workspace.documents = _
    rw [left, active, alone, replacements_formatDocument document []]
    exact applyAll_editsOf_cons ..

/-! ### Two actions -/

/-- A later run comes to the same reply with the same saves and calls. It puts no replacement into
effect and leaves the workspace as the first one left it. -/
structure Repeats (first later : Run Session Reply) : Prop where
  value : later.value = first.value
  saved : (Journal.ofTrace later.trace).saved.Perm (Journal.ofTrace first.trace).saved
  calls : (Journal.ofTrace later.trace).calls.Perm (Journal.ofTrace first.trace).calls
  replacements : (Journal.ofTrace later.trace).replacements = []
  workspace : later.state.workspace = first.state.workspace

/-- The action formats what the first one formatted. A schedule may be another one. -/
inductive Again : Action → Action → Prop
  | format : Again .format .format
  | formatAll (first later : List Turn) : Again (.formatAll first) (.formatAll later)

/-- Every document that the first action gave another text can be saved with it. -/
def Resaves (session : Session) (first : Action) : Prop :=
  ∀ renewed ∈ (session.perform first).trace.filterMap Event.renewed?,
    session.script.save renewed = .ok ()

/-- The surroundings and the documents are as the first action left them. -/
structure Follows (session : Session) (first : Action) (current : Session) : Prop where
  host : current.script.host = session.script.host
  workspace : current.workspace = (session.perform first).state.workspace

section Steps

variable {session current : Session} {first : Action}

theorem Follows.alone_eq (follows : session.Follows first current) :
    current.alone = session.alone := by
  funext document
  have same : formatDocument current.workspace document true =
      formatDocument session.workspace document true := by
    rw [follows.workspace]
    exact formatDocument_congr rfl rfl rfl true
  rw [alone, alone, same, follows.host]

/-- What the run of a document comes to once the first run has taken effect on its buffer. -/
theorem alone_again {document : Document} (titled : document.path.isSome = true)
    (resaves : ∀ renewed ∈ (session.alone document).trace.filterMap Event.renewed?,
      session.script.save renewed = .ok ()) :
    Echoes (session.alone document)
      (session.alone (rewritten document (session.alone document).trace)) :=
  formatDocument_again session.script.host_steady titled [] [] fun renewed member =>
    Script.gave_save_iff.mpr (resaves renewed member)

/-- Where the second run of a document comes to the outcome of the first, the document was saved with
the text that the first one gave it. -/
theorem resaves_of_alone {document : Document} (titled : document.path.isSome = true)
    (same : (session.alone (rewritten document (session.alone document).trace)).value.getD
        (panicked (rewritten document (session.alone document).trace)) =
      (session.alone document).value.getD (panicked document)) :
    ∀ renewed ∈ (session.alone document).trace.filterMap Event.renewed?,
      session.script.save renewed = .ok () := by
  intro renewed member
  obtain ⟨rfl, value, -⟩ :=
    renewed_formatDocument session.script.host_steady.responsive.hears titled [] renewed member
  -- A worker that panics has no success to report, so the second run has come to its end.
  cases again : (session.alone (rewritten document (session.alone document).trace)).value with
  | none =>
    rw [again, alone, value] at same
    cases same
  | some outcome =>
    rw [again, alone, value] at same
    obtain rfl : outcome = .succeeded (formattedMessage document) := same
    exact Script.gave_save_iff.mp (gave_save_of_success titled again rfl)

theorem resaves_format_iff :
    session.Resaves .format ↔ ∀ document ∈ session.workspace.documents.head?,
      ∀ renewed ∈ (session.alone document).trace.filterMap Event.renewed?,
        session.script.save renewed = .ok () := by
  unfold Resaves
  cases active : session.workspace.documents with
  | nil => simp [(format_nil active).2]
  | cons document rest => simp [(format_cons active).2.1]

theorem resaves_formatAll_iff (schedule : List Turn) :
    session.Resaves (.formatAll schedule) ↔ ∀ document ∈ session.workspace.documents,
      ∀ renewed ∈ (session.alone document).trace.filterMap Event.renewed?,
        session.script.save renewed = .ok () := by
  have shares := session.reads_formatAll schedule Event.renewed? fun _ _ => rfl
  simp only [Resaves, shares.mem_iff, List.mem_flatMap]
  exact ⟨fun each document present renewed member => each renewed ⟨document, present, member⟩,
    fun each renewed ⟨document, present, member⟩ => each document present renewed member⟩

/-- Where the text of a document does not matter for saving it, it can be saved with every text. -/
theorem resaves_of_savesByName (byName : session.script.SavesByName)
    (titled : ∀ document ∈ session.workspace.documents, document.path.isSome = true)
    {later : Action} (again : Again first later) : session.Resaves first := by
  have each : ∀ document ∈ session.workspace.documents,
      ∀ renewed ∈ (session.alone document).trace.filterMap Event.renewed?,
        session.script.save renewed = .ok () := by
    intro document present renewed member
    obtain ⟨rfl, -, saved⟩ := renewed_formatDocument session.script.host_steady.responsive.hears
      (titled document present) [] renewed member
    exact (byName document _).trans (Script.gave_save_iff.mp saved)
  cases again with
  | format =>
    refine resaves_format_iff.mpr fun document active => ?_
    exact each document (List.mem_of_mem_head? active)
  | formatAll => exact (resaves_formatAll_iff _).mpr each

variable (titled : ∀ document ∈ session.workspace.documents, document.path.isSome = true)

/-- The active document is still active, and its second run is the second run of formatting it. -/
theorem Follows.format_cons (follows : session.Follows .format current) {document : Document}
    {rest : List Document} (active : session.workspace.documents = document :: rest) :
    let later := session.alone (rewritten document (session.alone document).trace)
    (current.perform .format).value = later.value.map .outcome ∧
      (current.perform .format).trace = later.trace := by
  obtain ⟨-, -, documents⟩ := Session.format_cons active
  rw [← follows.workspace] at documents
  obtain ⟨value, trace, -⟩ := Session.format_cons documents
  rw [follows.alone_eq] at value trace
  exact ⟨value, trace⟩

include titled

theorem repeats_format (resaves : session.Resaves .format) (follows : session.Follows .format current) :
    Repeats (session.perform .format) (current.perform .format) := by
  cases active : session.workspace.documents with
  | nil =>
    obtain ⟨value, trace⟩ := format_nil active
    have none : current.workspace.documents = [] := by
      rw [follows.workspace, workspace_perform_of_unreplaced (by rw [trace]; rfl), active]
    obtain ⟨valueThen, traceThen⟩ := format_nil none
    have unchanged : (current.perform .format).trace.filterMap Event.replacement? = [] := by
      rw [traceThen]
      rfl
    exact ⟨valueThen.trans value.symm, by rw [traceThen, trace], by rw [traceThen, trace], unchanged,
      (workspace_perform_of_unreplaced unchanged).trans follows.workspace⟩
  | cons document rest =>
    obtain ⟨value, trace, -⟩ := format_cons active
    obtain ⟨valueThen, traceThen⟩ := follows.format_cons active
    have present : document ∈ session.workspace.documents := active ▸ List.mem_cons_self
    have echoes := alone_again (titled document present)
      (resaves_format_iff.mp resaves document (active ▸ rfl))
    have unchanged : (current.perform .format).trace.filterMap Event.replacement? = [] := by
      rw [traceThen]
      exact echoes.replacements
    constructor
    case value => rw [valueThen, value, echoes.value]
    case saved => rw [traceThen, trace, echoes.saved]
    case calls => rw [traceThen, trace, echoes.calls]
    case replacements => exact unchanged
    case workspace => exact (workspace_perform_of_unreplaced unchanged).trans follows.workspace

theorem resaves_of_repeats_format (follows : session.Follows .format current)
    (same : (current.perform .format).value = (session.perform .format).value) :
    session.Resaves .format := by
  refine resaves_format_iff.mpr fun document active => ?_
  obtain ⟨rest, documents⟩ := List.head?_eq_some_iff.mp active
  refine resaves_of_alone (titled document (documents ▸ List.mem_cons_self)) ?_
  rw [(follows.format_cons documents).1, (format_cons documents).1] at same
  rw [Option.map_injective (fun _ _ => Reply.outcome.inj) same]
  rfl

variable (distinct : (session.workspace.documents.map Document.path).Nodup)

omit titled in
include distinct in
theorem Follows.documents_formatAll {schedule : List Turn}
    (follows : session.Follows (.formatAll schedule) current) :
    current.workspace.documents = session.workspace.documents.map fun document =>
      rewritten document (session.alone document).trace := by
  rw [follows.workspace]
  exact session.documents_formatAll schedule distinct

omit titled in
include distinct in
theorem Follows.value_formatAll {schedule : List Turn}
    (follows : session.Follows (.formatAll schedule) current) (later : List Turn) :
    (current.perform (.formatAll later)).value =
      some (.outcomes (session.workspace.documents.map fun document =>
        (session.alone (rewritten document (session.alone document).trace)).value.getD
          (panicked document))) := by
  rw [Session.value_formatAll, follows.documents_formatAll distinct, follows.alone_eq, List.map_map]
  rfl

include distinct

theorem repeats_formatAll {schedule : List Turn} (resaves : session.Resaves (.formatAll schedule))
    (follows : session.Follows (.formatAll schedule) current) (later : List Turn) :
    Repeats (session.perform (.formatAll schedule)) (current.perform (.formatAll later)) := by
  have documents := follows.documents_formatAll distinct
  have echoes := fun document member => alone_again (titled document member)
    ((resaves_formatAll_iff schedule).mp resaves document member)
  have reads : ∀ {α : Type} (read : Event → Option α),
      (∀ notification answer, read ⟨.notify notification, answer⟩ = none) →
      ((current.perform (.formatAll later)).trace.filterMap read).Perm
        (session.workspace.documents.flatMap fun document =>
          (session.alone (rewritten document (session.alone document).trace)).trace.filterMap
            read) := by
    intro α read silent
    have shares := current.reads_formatAll later read silent
    rwa [documents, follows.alone_eq, List.flatMap_map] at shares
  -- What each document on its own reads again, the action as a whole reads again.
  have echoed : ∀ {α : Type} (read : Event → Option α),
      (∀ notification answer, read ⟨.notify notification, answer⟩ = none) →
      (∀ document ∈ session.workspace.documents,
        (session.alone (rewritten document (session.alone document).trace)).trace.filterMap read =
          (session.alone document).trace.filterMap read) →
      ((current.perform (.formatAll later)).trace.filterMap read).Perm
        ((session.perform (.formatAll schedule)).trace.filterMap read) := by
    intro α read silent same
    have first := session.reads_formatAll schedule read silent
    rw [← List.flatMap_congr same] at first
    exact (reads read silent).trans first.symm
  have unchanged : (current.perform (.formatAll later)).trace.filterMap Event.replacement? = [] := by
    apply List.Perm.eq_nil
    refine (reads Event.replacement? fun _ _ => rfl).trans (.of_eq ?_)
    exact List.flatMap_eq_nil_iff.mpr fun document member => (echoes document member).replacements
  constructor
  case value =>
    rw [follows.value_formatAll distinct, value_formatAll]
    refine congrArg (some ∘ Reply.outcomes) (List.map_congr_left fun document member => ?_)
    rw [(echoes document member).value]
  case saved => exact echoed _ (fun _ _ => rfl) fun document member => (echoes document member).saved
  case calls => exact echoed _ (fun _ _ => rfl) fun document member => (echoes document member).calls
  case replacements => exact unchanged
  case workspace => exact (workspace_perform_of_unreplaced unchanged).trans follows.workspace

theorem resaves_of_repeats_formatAll {schedule later : List Turn}
    (follows : session.Follows (.formatAll schedule) current)
    (same : (current.perform (.formatAll later)).value =
      (session.perform (.formatAll schedule)).value) :
    session.Resaves (.formatAll schedule) := by
  rw [follows.value_formatAll distinct, value_formatAll, Option.some.injEq, Reply.outcomes.injEq]
    at same
  exact (resaves_formatAll_iff schedule).mpr fun document present =>
    resaves_of_alone (titled document present) (List.map_inj_left.mp same document present)

/-- An action that formats the same again repeats the first one, wherever it comes later, exactly when
the documents can be saved with the texts that the first one gave them. -/
theorem Follows.repeats_iff {later : Action} (again : Again first later)
    (follows : session.Follows first current) :
    Repeats (session.perform first) (current.perform later) ↔ session.Resaves first := by
  cases again with
  | format =>
    exact ⟨fun repeats => resaves_of_repeats_format titled follows repeats.value,
      fun resaves => repeats_format titled resaves follows⟩
  | formatAll =>
    exact ⟨fun repeats => resaves_of_repeats_formatAll titled distinct follows repeats.value,
      fun resaves => repeats_formatAll titled distinct resaves follows _⟩

theorem Follows.repeats_deeds {laters : List Action} (resaves : session.Resaves first)
    (again : ∀ later ∈ laters, Again first later) (follows : session.Follows first current) :
    ∀ deed ∈ current.deeds (laters.map .act), Repeats (session.perform first) deed.run := by
  -- Each of the later actions leaves the session as it found it, answers to questions aside.
  induction laters generalizing current with
  | nil => exact List.forall_mem_nil _
  | cons later laters ih =>
    obtain ⟨now, again⟩ := List.forall_mem_cons.mp again
    have repeats := (follows.repeats_iff titled distinct now).mpr resaves
    have stays : session.Follows first (current.perform later).state :=
      ⟨follows.host, repeats.workspace⟩
    intro deed member
    rcases List.mem_cons.mp member with rfl | member
    · exact repeats
    · exact ih again stays deed member

end Steps

/-! ### Main theorem -/

theorem actions_deeds (session : Session) (actions : List Action) :
    (session.deeds (actions.map .act)).map Deed.action = actions := by
  induction actions generalizing session with
  | nil => rfl
  | cons action actions ih => exact congrArg (action :: ·) (ih _)

/-- Formatting all documents, or the active one, settles what it formats, when all documents are titled
and have different paths. If each document that was given another text can be saved with it, every later
round comes to the same reply with the same saves and calls, puts no replacement into effect and changes
no text. If one of them cannot, the next round is another one. -/
theorem formatting_idempotent {session : Session}
    (distinct : (session.workspace.documents.map Document.path).Nodup)
    (titled : ∀ document ∈ session.workspace.documents, document.path.isSome = true)
    {first : Action} {laters : List Action} (again : ∀ later ∈ laters, Again first later) :
    let deeds := (session.perform first).state.deeds (laters.map .act)
    deeds.map Deed.action = laters ∧
      (session.Resaves first → ∀ deed ∈ deeds, Repeats (session.perform first) deed.run) ∧
      (∀ later ∈ laters.head?,
        Repeats (session.perform first) ((session.perform first).state.perform later) →
          session.Resaves first) := by
  have follows : session.Follows first (session.perform first).state := ⟨rfl, rfl⟩
  refine ⟨actions_deeds .., fun resaves => follows.repeats_deeds titled distinct resaves again, ?_⟩
  intro later next
  exact (follows.repeats_iff titled distinct (again later (List.mem_of_mem_head? next))).mp

/-- A document that is changed, one that is right already, and four that are not formatted: two whose
process ends badly, one that cannot be saved and one that cannot be replaced. -/
theorem formatting_idempotent_mixed :
    let file (path text : String) : Document := ⟨some ⟨path⟩, text, "python", none⟩
    let refuse (path : String) (document : Document) : Except Error Unit :=
      if document.path = some ⟨path⟩ then .error (.invalidConfig "read-only") else .ok ()
    let script : Script :=
      ⟨refuse "/w/e.py", fun document _ => refuse "/w/f.py" document,
        Rule.answer? [⟨"/w/c.py", .crash⟩, ⟨"/w/d.py", .refuse "no such file"⟩], []⟩
    let session : Session :=
      ⟨plainWorkspace [file "/w/a.py" "a", file "/w/b.py" "", file "/w/c.py" "c", file "/w/d.py" "d",
        file "/w/e.py" "e", file "/w/f.py" "f"], script⟩
    let schedule : List Turn := [.worker 2, .collector, .worker 0]
    let first := session.perform (.formatAll schedule)
    let laters : List Action := [.formatAll [], .formatAll [.worker 5, .worker 1]]
    session.Resaves (.formatAll schedule) ∧
      (∀ deed ∈ first.state.deeds (laters.map .act), Repeats first deed.run) ∧
      first.state.workspace.documents.map Document.text = ["", "", "c", "d", "e", "f"] ∧
      first.value = some (.outcomes [.succeeded "Successfully formatted \"a.py\"",
        .succeeded "Successfully formatted \"b.py\"", .failed "Formatting \"c.py\" panicked",
        .failed "no such file", .configError "Invalid configuration: read-only",
        .configError "Invalid configuration: read-only"]) := by
  intro file refuse script session schedule first laters
  have distinct : (session.workspace.documents.map Document.path).Nodup := by decide
  have titled : ∀ document ∈ session.workspace.documents, document.path.isSome = true := by decide
  have again : ∀ later ∈ laters, Again (.formatAll schedule) later := by
    simp only [laters, List.forall_mem_cons]
    exact ⟨.formatAll _ _, .formatAll _ _, List.forall_mem_nil _⟩
  have byName : session.script.SavesByName := fun _ _ => rfl
  have resaves : session.Resaves (.formatAll schedule) :=
    resaves_of_savesByName byName titled (.formatAll _ schedule)
  have outcomes : (formatAll script.host schedule session.workspace []).value =
      some [.succeeded "Successfully formatted \"a.py\"",
        .succeeded "Successfully formatted \"b.py\"", .failed "Formatting \"c.py\" panicked",
        .failed "no such file", .configError "Invalid configuration: read-only",
        .configError "Invalid configuration: read-only"] := by decide +kernel
  exact ⟨resaves, (formatting_idempotent distinct titled again).2.1 resaves, by decide +kernel,
    congrArg (Option.map Reply.outcomes) outcomes⟩

/-- A run with a call is not repeated by one without. -/
theorem not_repeats_of_uncalled {first later : Run Session Reply} {count : Nat}
    (called : (Journal.ofTrace first.trace).calls.length = count + 1)
    (uncalled : (Journal.ofTrace later.trace).calls = []) : ¬ Repeats first later := by
  intro repeats
  have same := repeats.calls.length_eq
  rw [uncalled, called] at same
  cases same

/-- A document that can be saved with its old text and not with the one that it is given. The second
round fails where the first one succeeded, whether it is the active document or one of all that is
formatted. -/
theorem formatting_unrepeated :
    let refuse (document : Document) : Except Error Unit :=
      if document.text = "b" then .error (.io "disk full") else .ok ()
    let script : Script :=
      ⟨refuse, fun _ _ => .ok (), fun _ => some (.ok ⟨true, some 0, Text.encode "b", []⟩), []⟩
    let session : Session := ⟨plainWorkspace [⟨some ⟨"/w/a.py"⟩, "a", "python", none⟩], script⟩
    (session.workspace.documents.map Document.path).Nodup ∧
      (∀ document ∈ session.workspace.documents, document.path.isSome = true) ∧
      ∀ action ∈ [Action.format, .formatAll []],
        let first := session.perform action
        let later := first.state.perform action
        Again action action ∧ first.state.script = script ∧
          first.state.workspace.documents.map Document.text = ["b"] ∧
          (Journal.ofTrace first.trace).calls.length = 1 ∧
          (Journal.ofTrace later.trace).calls = [] ∧ ¬ Repeats first later := by
  intro refuse script session
  have runs : ∀ action ∈ [Action.format, .formatAll []],
      let first := session.perform action
      let later := first.state.perform action
      first.state.workspace.documents.map Document.text = ["b"] ∧
        (Journal.ofTrace first.trace).calls.length = 1 ∧
        (Journal.ofTrace later.trace).calls = [] := by
    decide +kernel
  refine ⟨by decide, by decide, fun action member => ?_⟩
  obtain ⟨texts, called, uncalled⟩ := runs action member
  have other := not_repeats_of_uncalled called uncalled
  simp only [List.mem_cons, List.not_mem_nil, or_false] at member
  rcases member with rfl | rfl
  · exact ⟨.format, rfl, texts, called, uncalled, other⟩
  · exact ⟨.formatAll [] [], rfl, texts, called, uncalled, other⟩

end Session

end EditorBridge
