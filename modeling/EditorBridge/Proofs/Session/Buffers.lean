import EditorBridge.Proofs.Command.Editing
import EditorBridge.Proofs.Command.Requests
import EditorBridge.Proofs.Session.Documents
import EditorBridge.Proofs.Session.Spawning

/-!
# What the buffers hold

Whatever a history of commands does, the text of a document is the one it began with, or one that
the tool printed when it cleaned this very document. Every single replacement is backed by the
process that printed its content; from this the texts follow by induction on the history.

## Main statements

`texts_justified`: along every history of commands, in all surroundings in which only processes fail
to answer, the texts are justified in this way, and only formatting saves or replaces.
-/

namespace EditorBridge

/-! ### Justified texts -/

/-- By now a successful process has cleaned the document of that path, as it stood then, and printed
the text. -/
def Printed (tool : String) (documents : List Document) (path : Option Path) (text : String)
    (events : List Event) : Prop :=
  ∃ earlier call output later cleaned,
    events = earlier ++ ⟨.run call, some (.ok output)⟩ :: later ∧
    output.success = true ∧ text = Text.decodeLossy output.stdout ∧
    cleaned ∈ documentsAfter documents earlier ∧ cleaned.path = path ∧
    Command.Prints tool cleaned call

/-- Every replacement that takes effect gives a document what was printed for it. -/
def Warranted (tool : String) (documents : List Document) (events : List Event) : Prop :=
  ∀ front document content answer back,
    events = front ++ ⟨.replace document content, some (.ok answer)⟩ :: back →
      Printed tool documents document.path content front

/-- At every point of the history the documents are those of its start, each with the text it had
then or with one that was printed for it since. -/
structure Justified (tool : String) (documents : List Document) (events : List Event) : Prop where
  paths : ∀ front back, events = front ++ back →
    (documentsAfter documents front).map Document.path = documents.map Document.path
  texts : ∀ front back, events = front ++ back → ∀ now ∈ documentsAfter documents front,
    ∃ document ∈ documents, now = { document with text := now.text } ∧
      (now.text = document.text ∨ Printed tool documents document.path now.text front)

section

variable {tool : String} {documents : List Document} {path : Option Path} {text : String}
  {events front back : List Event}

theorem Printed.append (printed : Printed tool documents path text front) (back : List Event) :
    Printed tool documents path text (front ++ back) := by
  obtain ⟨earlier, call, output, later, cleaned, rfl, rest⟩ := printed
  exact ⟨earlier, call, output, later ++ back, cleaned, by simp, rest⟩

/-- What was printed in the course of a history was printed in the whole of it. -/
theorem Printed.after (printed : Printed tool (documentsAfter documents front) path text back) :
    Printed tool documents path text (front ++ back) := by
  obtain ⟨earlier, call, output, later, cleaned, rfl, success, text, present, rest⟩ := printed
  rw [← documentsAfter_append] at present
  exact ⟨front ++ earlier, call, output, later, cleaned, by simp, success, text, present, rest⟩

theorem Event.exists_of_replacement? {event : Event} {replacement : Replacement}
    (replaced : event.replacement? = some replacement) :
    ∃ document answer, event = ⟨.replace document replacement.content, some (.ok answer)⟩ ∧
      replacement.path = document.path := by
  obtain ⟨request, answer⟩ := event
  cases request with
  | replace document content =>
    match answer with
    | some (.ok answer) =>
      obtain rfl := Option.some.inj replaced
      exact ⟨document, answer, rfl, rfl⟩
    | some (.error _) | none => cases replaced
  | save | run | notify | confirm | registerCommand | registerScheme => cases replaced

theorem Warranted.of_append (warranted : Warranted tool documents (front ++ back)) :
    Warranted tool documents front := by
  rintro earlier document content answer later rfl
  exact warranted earlier document content answer (later ++ back) (by simp)

/-- Where every replacement is warranted, so is every text at the end. -/
theorem Warranted.texts (warranted : Warranted tool documents events) :
    ∀ now ∈ documentsAfter documents events,
      ∃ document ∈ documents, now = { document with text := now.text } ∧
        (now.text = document.text ∨ Printed tool documents document.path now.text events) := by
  -- By induction on the history from its end: the last event changes one document or none.
  induction events using List.reverseRecOn with
  | nil => exact fun now member => ⟨now, member, rfl, .inl rfl⟩
  | append_singleton events event ih =>
    have before : ∀ now ∈ documentsAfter documents events,
        ∃ document ∈ documents, now = { document with text := now.text } ∧
          (now.text = document.text ∨
            Printed tool documents document.path now.text (events ++ [event])) := by
      intro now member
      obtain ⟨document, present, same, text⟩ := ih warranted.of_append now member
      exact ⟨document, present, same, text.imp_right fun printed => printed.append [event]⟩
    intro now member
    rw [documentsAfter_concat] at member
    cases replaced : event.replacement? with
    | none =>
      rw [replaced] at member
      exact before now member
    | some replacement =>
      rw [replaced] at member
      -- The text is that of the event now, and the event was warranted.
      rcases Session.mem_setText member with kept | ⟨former, held, named, rfl⟩
      · exact before now kept
      · obtain ⟨document, present, same, -⟩ := ih warranted.of_append former held
        obtain ⟨target, answer, rfl, path⟩ := Event.exists_of_replacement? replaced
        have printed := warranted events target replacement.content answer [] rfl
        refine ⟨document, present, by rw [same], .inr ?_⟩
        rw [← path, ← named, same] at printed
        exact printed.append _

theorem Warranted.justified (warranted : Warranted tool documents events) :
    Justified tool documents events where
  paths front _ _ := paths_documentsAfter documents front
  texts := by
    rintro front back rfl
    exact warranted.of_append.texts

end

/-! ### The replacements of one action -/

/-- Nothing was to be saved or replaced. -/
def Event.Harmless (event : Event) : Prop := event.saved? = none ∧ event.edited? = none

/-- A command that is given the documents as they are. -/
structure Action.Current (documents : List Document) (action : Action) : Prop where
  command : action.IsCommand
  saved : ∀ document, action = .saved document → document ∈ documents

namespace Action

variable {workspace : Workspace} {action : Action} {trace : List Event}

theorem Leaves.harmless (leaves : action.Leaves workspace trace) (command : action.IsCommand)
    (other : ¬ action.Formats) : ∀ event ∈ trace, event.Harmless :=
  leaves.always command
    (fun formats => absurd formats other)
    (fun _ => Command.always_render fun _ _ => ⟨rfl, rfl⟩)
    (fun _ => Command.always_ensureInstalled (fun _ _ => ⟨rfl, rfl⟩) (fun _ _ => ⟨rfl, rfl⟩)
      (fun _ _ => ⟨rfl, rfl⟩) fun _ _ => ⟨rfl, rfl⟩)
    (fun _ => Command.always_install (fun _ _ => ⟨rfl, rfl⟩) fun _ _ => ⟨rfl, rfl⟩)
    (fun _ _ => ⟨rfl, rfl⟩)

/-- Where the tool writes files itself, documents with a file are not replaced. -/
theorem Leaves.untitled (leaves : action.Leaves workspace trace) (command : action.IsCommand)
    (inPlace : workspace.config.isOn .outputInPlace = true) :
    ∀ event ∈ trace, ∀ document, event.edited? = some document → document.path = none := by
  by_cases formats : action.Formats
  · refine leaves.always command (fun _ document save => ?_)
      (fun _ => Command.always_render fun _ _ _ => nofun)
      (fun check => absurd formats (by rw [check]; exact id))
      (fun install => absurd formats (by rw [install]; exact id)) (fun _ _ _ => nofun)
    refine Command.always_formatDocument (fun _ _ _ => nofun) (fun _ _ _ => nofun)
      (fun output changed answer edited same => ?_) (fun _ _ _ => nofun)
    obtain rfl := Option.some.inj same
    -- A document with a file would have been kept, and so not replaced.
    by_contra titled
    exact changed (.inl ⟨inPlace, Option.isSome_iff_ne_none.mpr titled⟩)
  · intro event member document edited
    rw [(leaves.harmless command formats event member).2] at edited
    cases edited

/-- A replacement that an action makes gives one of the documents what was printed for it. -/
theorem Leaves.produced (leaves : action.Leaves workspace trace)
    (current : action.Current workspace.documents)
    (distinct : (workspace.documents.map Document.path).Nodup) {front back : List Event}
    {replaced : Document} {content : String} {answer : Unit}
    (split : trace = front ++ ⟨.replace replaced content, some (.ok answer)⟩ :: back) :
    replaced ∈ workspace.documents ∧
      Command.Produced workspace.tool replaced content front := by
  have among : ⟨.replace replaced content, some (.ok answer)⟩ ∈ trace :=
    split ▸ List.mem_append_right front List.mem_cons_self
  by_cases formats : action.Formats
  · cases leaves with
    | format goes =>
      unfold Command.format at goes
      split at goes
      next =>
        rw [((Program.goes_done ..).mp goes).1] at among
        cases among
      next document first =>
        obtain ⟨rfl, produced⟩ := Command.goes_formatDocument_produced (split ▸ goes)
        exact ⟨List.mem_of_mem_head? first, produced⟩
    | formatAll mixes => exact mixes.produced distinct split
    | @saved document _ _ goes =>
      unfold Command.formatSaved at goes
      split at goes
      next =>
        obtain ⟨rfl, produced⟩ := Command.goes_formatDocument_produced (split ▸ goes)
        exact ⟨current.saved _ rfl, produced⟩
      next =>
        rw [((Program.goes_done ..).mp goes).1] at among
        cases among
    | activate | openOverview | provide | render | ensureInstalled | install | invoke | probe
    | installTool => cases formats
  · cases (leaves.harmless current.command formats _ among).2

theorem Leaves.warranted (leaves : action.Leaves workspace trace)
    (current : action.Current workspace.documents)
    (distinct : (workspace.documents.map Document.path).Nodup) :
    Warranted workspace.tool workspace.documents trace := by
  intro front replaced content answer back split
  obtain ⟨present, earlier, call, output, later, rfl, prints, success, text, unnamed⟩ :=
    leaves.produced current distinct split
  -- The document that was cleaned is still the one that the action began with.
  refine ⟨earlier, call, output, later, replaced, rfl, success, text, ?_, rfl, prints⟩
  refine mem_documentsAfter_of_unnamed present fun replacement member => unnamed replacement ?_
  rw [List.filterMap_append]
  exact List.mem_append_left _ member

end Action

/-! ### Histories -/

/-- A history of commands by its entries. The documents follow the replacements; the configuration
is another one at will. -/
inductive Chronicle (tool : String) : List Document → List Entry → Prop
  | start (documents : List Document) : Chronicle tool documents []
  | next {documents : List Document} {config : Config} {action : Action} {trace : List Event}
      {rest : List Entry} :
      Entry.Possible ⟨⟨tool, config, documents⟩, action, trace⟩ → action.Current documents →
      Chronicle tool (documentsAfter documents trace) rest →
      Chronicle tool documents (⟨⟨tool, config, documents⟩, action, trace⟩ :: rest)

theorem Chronicle.warranted {tool : String} {documents : List Document} {entries : List Entry}
    (chronicle : Chronicle tool documents entries)
    (distinct : (documents.map Document.path).Nodup) :
    Warranted tool documents (entries.flatMap Entry.trace) := by
  induction chronicle with
  | start => exact fun front _ _ _ _ split => absurd split.symm (by simp)
  | @next documents config action trace rest possible current _ ih =>
    intro front replaced content answer back split
    rw [List.flatMap_cons] at split
    rw [← paths_documentsAfter documents trace] at distinct
    -- The replacement is one of this action or of a later one.
    rcases List.append_eq_append_iff.mp split with ⟨gap, rfl, later⟩ | ⟨gap, now, later⟩
    · exact (ih distinct gap replaced content answer back later).after
    · cases gap with
      | nil =>
        have before : front = trace := by simpa using now.symm
        have after := ih distinct [] replaced content answer back later.symm
        rw [before, ← List.append_nil trace]
        exact after.after
      | cons event gap =>
        obtain ⟨rfl, -⟩ := List.cons.inj later
        rw [paths_documentsAfter] at distinct
        exact possible.leaves.warranted current distinct front replaced content answer gap now

/-- The step can come in a history in which the documents change by replacements only. -/
def Step.Keeps (documents : List Document) : Step → Prop
  | .act action => action.Current documents
  | .configure _ | .direct _ => True
  | .open _ => False

namespace Session

/-- All steps keep to the documents as they are when the step is made. -/
def Undisturbed (session : Session) : List Step → Prop
  | [] => True
  | step :: rest =>
    step.Keeps session.workspace.documents ∧ (session.step step).1.Undisturbed rest

/-- After an action the documents are those after the replacements in its trace. -/
theorem documents_perform (session : Session) (action : Action)
    (distinct : (session.workspace.documents.map Document.path).Nodup) :
    (session.perform action).state.workspace.documents =
      documentsAfter session.workspace.documents (session.perform action).trace := by
  cases action with
  | formatAll schedule =>
    -- Here the session sorts the replacements first, but no document is replaced twice.
    obtain ⟨trace, mixes, left⟩ := Command.formatAll_mixes session.script.host_responsive.hears
      schedule session.workspace session.script.answers
    obtain ⟨chosen, fewer, paths⟩ := mixes.replaces_once
    rw [← left] at paths
    exact applyAll_perm (List.mergeSort_perm ..)
      (paths.nodup_iff.mpr (distinct.sublist (fewer.map Document.path))) _
  | activate | format | saved | openOverview | provide | render | ensureInstalled | install | invoke
  | probe | installTool => rfl

/-- The deeds of an undisturbed history make a chronicle, and the documents follow it. -/
theorem chronicle (session : Session) (steps : List Step)
    (distinct : (session.workspace.documents.map Document.path).Nodup)
    (undisturbed : session.Undisturbed steps) :
    Chronicle session.workspace.tool session.workspace.documents
        ((session.deeds steps).map Deed.entry) ∧
      (session.after steps).workspace.documents =
        documentsAfter session.workspace.documents
          (((session.deeds steps).map Deed.entry).flatMap Entry.trace) := by
  induction steps generalizing session with
  | nil => exact ⟨.start _, rfl⟩
  | cons step rest ih =>
    obtain ⟨keeps, later⟩ := undisturbed
    cases step with
    | act action =>
      have documents := session.documents_perform action distinct
      let next := (session.perform action).state
      have stays : (next.workspace.documents.map Document.path).Nodup := by
        rw [documents, paths_documentsAfter]
        exact distinct
      obtain ⟨chronicle, after⟩ := ih next stays later
      rw [documents] at chronicle after
      refine ⟨.next (session.perform_possible action) keeps chronicle, ?_⟩
      exact after.trans (documentsAfter_append ..).symm
    | configure config => exact ih (session.step (.configure config)).1 distinct later
    | «open» documents => cases keeps
    | direct script => exact ih (session.step (.direct script)).1 distinct later

end Session

/-! ### Main theorem -/

/-- The tool was asked to clean a file and to write the result itself. -/
def Call.Writes (tool : String) (call : Call) : Prop :=
  ∃ target rest, call.arguments = "-m" :: tool :: "clean" :: target :: "--output" :: rest

/-- What an action may do to documents. -/
structure Entry.Spares (entry : Entry) : Prop where
  /-- Only formatting saves or replaces. -/
  uninvolved : ¬ entry.action.Formats → ∀ event ∈ entry.trace, event.Harmless
  /-- When the tool writes files itself, none but untitled documents are replaced. -/
  written : ∀ call ∈ entry.trace.filterMap Event.call?, call.Writes entry.workspace.tool →
    ∀ event ∈ entry.trace, ∀ document, event.edited? = some document → document.path = none

theorem Command.Purpose.isOn_of_writes {tool : String} {config : Config} {purpose : Purpose}
    {target : String} {rest : List String}
    (writes : purpose.arguments tool config =
      "-m" :: tool :: "clean" :: target :: "--output" :: rest) :
    config.isOn .outputInPlace = true := by
  cases purpose with
  | clean document =>
    by_contra off
    have unwritten : (config.cleanOptions document).writtenFile? (.ofDocument document) = none := by
      simp [CleanOptions.writtenFile?, Config.cleanOptions, off]
    simp [arguments, cleanArguments, unwritten] at writes
  | overview | probe | install => simp [arguments, overviewArguments] at writes

theorem Entry.Possible.spares {entry : Entry} (possible : entry.Possible)
    (command : entry.action.IsCommand) : entry.Spares where
  uninvolved := possible.leaves.harmless command
  written call member := by
    rintro ⟨target, rest, writes⟩
    obtain ⟨purpose, serves⟩ := possible.exists_purpose command member
    rw [serves.arguments] at writes
    exact possible.leaves.untitled command (Command.Purpose.isOn_of_writes writes)

/-- Along every history of commands that are given the documents as they are, a document holds the
text it began with or one that the tool printed when it cleaned that document as it was then,
without writing a file. Only formatting saves or replaces, and where the tool writes files itself
no document with a file is replaced. -/
theorem texts_justified :
    (∀ (session : Session) (steps : List Step),
      (session.workspace.documents.map Document.path).Nodup → session.Undisturbed steps →
        let events := ((session.deeds steps).map Deed.entry).flatMap Entry.trace
        (session.after steps).workspace.documents =
            documentsAfter session.workspace.documents events ∧
          Justified session.workspace.tool session.workspace.documents events) ∧
    (∀ (tool : String) (documents : List Document) (entries : List Entry),
      (documents.map Document.path).Nodup → Chronicle tool documents entries →
        Justified tool documents (entries.flatMap Entry.trace)) ∧
    ∀ entry : Entry, entry.Possible → entry.action.IsCommand → entry.Spares := by
  refine ⟨fun session steps distinct undisturbed => ?_, fun tool documents entries distinct
    chronicle => (chronicle.warranted distinct).justified, fun entry possible => possible.spares⟩
  obtain ⟨chronicle, after⟩ := session.chronicle steps distinct undisturbed
  exact ⟨after, (chronicle.warranted distinct).justified⟩

/-- A file and an untitled document, formatted one after the other: the file by a tool that prints,
the untitled document when the tool is to write files. -/
theorem texts_justified_edited :
    let writing (inPlace : Bool) : Config
      | .interpreterPath => some (.text "python")
      | .formatOnSave => some (.flag true)
      | .outputInPlace => some (.flag inPlace)
      | _ => none
    let printing (byte : UInt8) : Script :=
      ⟨fun _ => .ok (), fun _ _ => .ok (), fun _ => some (.ok ⟨true, some 0, [byte], []⟩), []⟩
    let file (text : String) : Document := ⟨some ⟨"/w/a.py"⟩, text, "python", none⟩
    let session :=
      Session.start (writing false) [file "a", ⟨none, "a", "python", none⟩] (printing 98)
    let steps : List Step :=
      [.act .format, .act (.saved (file "b")), .direct (printing 99), .configure (writing true),
        .act (.formatAll [.worker 1, .worker 0]), .act .install]
    let events := ((session.deeds steps).map Deed.entry).flatMap Entry.trace
    (session.workspace.documents.map Document.path).Nodup ∧ session.Undisturbed steps ∧
      Justified session.workspace.tool session.workspace.documents events ∧
      (session.after steps).workspace.documents.map Document.text = ["b", "c"] := by
  intro writing printing file session steps events
  have distinct : (session.workspace.documents.map Document.path).Nodup := by decide
  have undisturbed : session.Undisturbed steps :=
    ⟨⟨trivial, nofun⟩, ⟨trivial, fun document same => by cases same; decide +kernel⟩, trivial,
      trivial, ⟨trivial, nofun⟩, ⟨trivial, nofun⟩, trivial⟩
  exact ⟨distinct, undisturbed, (texts_justified.1 session steps distinct undisturbed).2,
    by decide +kernel⟩

end EditorBridge
