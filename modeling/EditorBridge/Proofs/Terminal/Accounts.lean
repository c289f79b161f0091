import EditorBridge.Proofs.Command.Editing
import EditorBridge.Proofs.Command.States
import EditorBridge.Proofs.Terminal.Asking
import EditorBridge.Proofs.Terminal.Files
import EditorBridge.Proofs.Terminal.InputFilter

/-!
# No file is lost

Every argument is opened on its own, and every document is formatted by a worker of its own. So the
arguments can be counted through: each of them became a document or was kept aside, and each has one
outcome in the report, whatever the others came to. A file that was kept aside is told about and has no
other part in what happens.

## Main statements

`Terminal.divides_ofArguments`: the arguments are divided into documents and unreadable files.

`Command.Pool.Settled.goesAlone`, `Command.Pool.Settled.perm_calls`: every worker makes the call of its own
document, and no call is made but these.

`Operation.formatFiles_accounts`: the report has one outcome for each argument, and every document its run.
-/

namespace EditorBridge

/-! ### Opening -/

namespace Terminal

/-- What the arguments load as, from first to last. Each is loaded on the machine that the one before it
left, since the standard input can be read only once. -/
inductive Loads : Machine → List Path → List (Except String Document) → Machine → Prop
  | none (machine : Machine) : Loads machine [] [] machine
  | next {machine loaded last : Machine} {path : Path} {paths : List Path}
      {result : Except String Document} {results : List (Except String Document)} :
      openArgument machine path = (result, loaded) → Loads loaded paths results last →
      Loads machine (path :: paths) (result :: results) last

/-- The arguments divided by what they loaded as. Each of them stands in one of the two lists, and both
lists keep the order of the arguments. -/
inductive Divides :
    List Path → List (Except String Document) → List Document → List Unreadable → Prop
  | none : Divides [] [] [] []
  | document {paths : List Path} {results : List (Except String Document)}
      {documents : List Document} {unreadable : List Unreadable} (path : Path) (document : Document) :
      Divides paths results documents unreadable →
      Divides (path :: paths) (.ok document :: results) (document :: documents) unreadable
  | unreadable {paths : List Path} {results : List (Except String Document)}
      {documents : List Document} {unreadable : List Unreadable} (path : Path) (reason : String) :
      Divides paths results documents unreadable →
      Divides (path :: paths) (.error reason :: results) documents (⟨path, .io reason⟩ :: unreadable)

theorem divides_openEach (machine : Machine) (paths : List Path) :
    ∃ results, Loads machine paths results (openEach machine paths).2 ∧
      Divides paths results ((openEach machine paths).1.filterMap Sum.getLeft?)
        ((openEach machine paths).1.filterMap Sum.getRight?) := by
  induction paths generalizing machine with
  | nil => exact ⟨[], .none machine, .none⟩
  | cons path paths ih =>
    obtain ⟨results, loads, divides⟩ := ih (openArgument machine path).2
    refine ⟨(openArgument machine path).1 :: results, .next rfl loads, ?_⟩
    simp only [openEach]
    cases (openArgument machine path).1 with
    | ok document => exact .document path document divides
    | error reason => exact .unreadable path reason divides

/-- Every argument becomes a document or is kept aside, whatever it loads as. -/
theorem divides_ofArguments (settings : Settings) (paths : List Path) (assumeYes : Bool)
    (machine : Machine) :
    let (terminal, opened) := ofArguments settings paths assumeYes machine
    ∃ results, Loads machine paths results opened ∧
      Divides paths results terminal.documents terminal.unreadable :=
  divides_openEach machine paths

end Terminal

/-! ### Documents -/

/-- Saving always goes well. -/
def Host.Saves {σ : Type} (host : Host σ) : Prop :=
  ∀ document state, (host.answer (.save document) state).1 = some (.ok ())

namespace Command

/-- The call that cleans the document, when there is an interpreter. -/
def plannedCall? (workspace : Workspace) (document : Document) : Option Call :=
  workspace.config.interpreter?.map fun interpreter =>
    (cleaning workspace interpreter document).call

/-- The outcome of a document whose worker came to the ending. Without one the worker panicked. -/
def outcomeOf (document : Document) (ending : Option Outcome) : Outcome :=
  ending.getD (.failed ("Formatting \"" ++ document.displayName ++ "\" panicked"))

/-- The events of a worker are a whole run for its document. -/
structure GoesAlone (workspace : Workspace) (document : Document) (events : List Event)
    (ending : Option Outcome) : Prop where
  goes : (formatDocument workspace document true).Goes events ending
  /-- One call, and none only for want of an interpreter. -/
  calls : events.filterMap Event.call? = (plannedCall? workspace document).toList
  /-- Nothing but its process ends a worker before its time. -/
  panics : ending = none ↔ ∃ call, (⟨.run call, none⟩ : Event) ∈ events

section

variable {σ : Type} {host : Host σ} {workspace : Workspace} {document : Document}

/-- Where saving goes well, cleaning a document reaches its call. -/
theorem calls_of_goes (saves : host.Saves) {events : List Event} {ending : Option Outcome}
    (goes : (formatDocument workspace document true).Goes events ending)
    (gave : ∀ event ∈ events, host.Gave event) :
    events.filterMap Event.call? = (plannedCall? workspace document).toList := by
  unfold plannedCall?
  cases resolved : workspace.config.interpreter? with
  | none =>
    have silent := formatDocument_unresolved resolved document true _ _ goes
    exact List.filterMap_eq_nil_iff.mpr fun event member => (silent event member).call?_eq_none
  | some interpreter =>
    rcases goes_formatDocument_calls resolved goes with one | ⟨-, answer, member, refused⟩
    · exact one
    · obtain ⟨state, given⟩ := gave _ member
      exact absurd (given.symm.trans (saves document state)) refused

theorem goesAlone (responsive : host.Responsive) (saves : host.Saves) {events : List Event}
    {ending : Option Outcome}
    (goes : (formatDocument workspace document true).Goes events ending)
    (gave : ∀ event ∈ events, host.Gave event) : GoesAlone workspace document events ending := by
  refine ⟨goes, calls_of_goes saves goes gave, fun ended => ?_, fun ⟨call, member⟩ => ?_⟩
  · rw [ended] at goes
    obtain ⟨request, member⟩ := goes.exists_unanswered
    obtain ⟨state, given⟩ := gave _ member
    by_contra answered
    have run : ∀ call, request ≠ .run call := fun call same => answered ⟨call, same ▸ member⟩
    have heard := responsive request state run
    rw [given] at heard
    cases heard
  · exact goes.ended_of_unanswered member

end

namespace Pool.Settled

variable {σ : Type} {host : Host σ} {workspace : Workspace} {pool : Pool σ}
  (settled : pool.Settled host workspace) (responsive : host.Responsive) (saves : host.Saves)

include settled responsive saves

/-- Whatever the other workers came to, each of them went its own way to the end. -/
theorem goesAlone {index : Nat} {worker : Worker} (found : pool.workers[index]? = some worker) :
    GoesAlone workspace worker.document (eventsOf (.worker index) pool.trace) worker.value? :=
  Command.goesAlone responsive saves (settled.goes index worker found) fun _ member =>
    settled.gave _ (mem_of_mem_eventsOf member)

/-- The calls are those of the documents, one for each, in the order of the schedule. -/
theorem perm_calls :
    ((pool.trace.map (·.2)).filterMap Event.call?).Perm
      (workspace.documents.filterMap (plannedCall? workspace)) := by
  have shares := settled.perm_shares Event.call?
    (fun worker => (plannedCall? workspace worker.document).toList) fun index worker found =>
      (settled.goesAlone responsive saves found).calls
  refine shares.trans (.of_eq ?_)
  -- The collector calls nothing.
  have silent : ∀ worker : Worker, worker.collectorEvents.filterMap Event.call? = [] := by
    intro worker
    rw [Worker.collectorEvents]
    cases worker.value? <;> rfl
  simp only [silent, List.append_nil]
  rw [← settled.documents, List.filterMap_map, List.filterMap_eq_flatMap_toList]
  rfl

end Pool.Settled

/-- A worker replaces nothing but its own document. -/
theorem Mixes.edits {workspace : Workspace} {mixed : List (Turn × Event)}
    (mixes : Mixes workspace mixed) :
    ∀ event ∈ mixed.map (·.2), ∀ document, event.edited? = some document →
      document ∈ workspace.documents := by
  refine mixes.always (fun document present => ?_) fun _ _ same => nomatch same
  have works : (clean workspace document true).Always fun event =>
      ∀ other, event.edited? = some other → other ∈ workspace.documents := by
    refine always_clean (fun _ _ _ same => nomatch same) (fun _ _ _ same => nomatch same) ?_
    rintro output - answer other same
    obtain rfl := Option.some.inj same
    exact present
  exact Program.always_bind works fun _ => Program.always_report fun _ _ _ same => nomatch same

end Command

/-! ### Files -/

/-- Something is made known or told, and nothing is done. -/
def Request.IsAnnouncement : Request → Prop
  | .registerCommand _ | .registerScheme _ | .notify _ => True
  | .save _ | .run _ | .replace .. | .confirm _ => False

namespace Terminal

variable {terminal : Terminal} {runner : Runner}

theorem host_responsive (terminal : Terminal) (runner : Runner) :
    (terminal.host runner).Responsive := by
  rw [← terminal.hostAsking_absent]
  exact terminal.hostAsking_responsive runner .absent

/-- The files hold the text of their buffers already. -/
theorem host_saves (terminal : Terminal) (runner : Runner) : (terminal.host runner).Saves :=
  fun _ _ => rfl

/-- Announcements change no file. -/
theorem tree_of_leads {events : List Event} {first last : Console}
    (leads : (terminal.host runner).Leads first events last)
    (announces : ∀ event ∈ events, event.request.IsAnnouncement) :
    last.machine.tree = first.machine.tree := by
  induction leads with
  | refl => rfl
  | @step before between _ event events answered _ ih =>
    rw [ih fun event member => announces event (List.mem_cons_of_mem _ member)]
    have announced := announces event List.mem_cons_self
    obtain ⟨request, answer⟩ := event
    obtain rfl := (congrArg Prod.snd answered).symm
    cases request with
    | registerCommand | registerScheme => rfl
    | notify notification =>
      simp only [host, notify]
      split <;> rfl
    | save | run | replace | confirm => cases announced

end Terminal

namespace Operation

/-- Why a file has no document. -/
def unopened (file : Unreadable) : String :=
  "Could not open \"" ++ file.path.text ++ "\": " ++ file.error.message

/-- What formatting files leaves, from what was announced before the workers started, what the workers came
to, and what they did. -/
structure Accounts (terminal : Terminal) (opened : Machine) (opening : Run Console (List Outcome))
    (endings : List (Option Outcome)) (mixed : List (Command.Turn × Event))
    (run : Run Console (Except Error Ending)) : Prop where
  /-- One outcome for each file without a document, and behind these one for each document. -/
  report : run.value = some (.ok (.report ⟨
    terminal.unreadable.map (fun file => .failed (unopened file)) ++
      List.zipWith Command.outcomeOf terminal.documents endings⟩))
  each : endings.length = terminal.documents.length
  trace : run.trace = opening.trace ++ mixed.map (·.2)
  /-- A file without a document is told about once, and nothing is done for it. -/
  told : opening.trace.filterMap Event.notification? =
    terminal.unreadable.map fun file => ⟨.error, unopened file⟩
  announced : ∀ event ∈ opening.trace, event.request.IsAnnouncement
  unwritten : opening.state.machine.tree = opened.tree
  /-- Whatever became of the others, a document has its own run. -/
  alone : ∀ index document ending, terminal.documents[index]? = some document →
    endings[index]? = some ending →
    Command.GoesAlone (workspace terminal) document (Command.eventsOf (.worker index) mixed) ending
  owned : ∀ entry ∈ mixed,
    (∃ index < terminal.documents.length, entry.1 = .worker index) ∨
      entry.1 = .collector ∧ entry.2.request.IsAnnouncement
  /-- There is no call and no replacement but for a document. -/
  calls : (run.trace.filterMap Event.call?).Perm
    (terminal.documents.filterMap (Command.plannedCall? (workspace terminal)))
  edits : ∀ event ∈ run.trace, ∀ document, event.edited? = some document →
    document ∈ terminal.documents

theorem announces_preamble (terminal : Terminal) :
    (preamble terminal).Always (·.request.IsAnnouncement) :=
  always_preamble terminal (fun _ _ => trivial) (fun _ _ => trivial) fun _ _ => trivial

/-- A settled pool, behind what was announced, leaves everything accounted for. -/
theorem accounts_settled {runner : Runner} {terminal : Terminal} {opened : Machine}
    {pool : Command.Pool Console}
    (settled : pool.Settled (terminal.host runner) (workspace terminal)) (state : Console) :
    let opening := (preamble terminal).run (terminal.host runner) ⟨opened, []⟩
    Accounts terminal opened opening (pool.workers.map Command.Worker.value?) pool.trace
      ⟨some (.ok (.report ⟨terminal.unreadable.map unreadableOutcome ++ pool.collected⟩)), state,
        opening.trace ++ pool.trace.map (·.2)⟩ := by
  intro opening
  have responsive := terminal.host_responsive runner
  have saves := terminal.host_saves runner
  have documents : pool.workers.map Command.Worker.document = terminal.documents :=
    settled.documents
  have announces := announces_preamble terminal _ _ ((preamble terminal).run_goes
    (terminal.host runner) ⟨opened, []⟩)
  -- Nothing is called and nothing replaced before the workers start.
  have uncalled : opening.trace.filterMap Event.call? = [] := by
    refine List.filterMap_eq_nil_iff.mpr fun event member => ?_
    exact preamble_idle terminal _ _ ((preamble terminal).run_goes ..) event member
  exact
    { report := by
        rw [settled.collected, ← documents, List.zipWith_map, List.zipWith_self]
        rfl
      each := by rw [← documents, List.length_map, List.length_map]
      trace := rfl
      told := by
        rw [(preamble_run responsive terminal ⟨opened, []⟩).2, List.flatMap_map,
          ← List.flatMap_pure_eq_map]
        rfl
      announced := announces
      unwritten := Terminal.tree_of_leads (Program.run_leads ..) announces
      alone := by
        intro index document ending standing ended
        rw [← documents, List.getElem?_map, Option.map_eq_some_iff] at standing
        obtain ⟨worker, found, rfl⟩ := standing
        rw [List.getElem?_map, found] at ended
        obtain rfl := Option.some.inj ended
        exact settled.goesAlone responsive saves found
      owned := by
        rintro ⟨turn, event⟩ member
        rcases settled.mixes.owned _ member with rfl | works
        · obtain ⟨notification, rfl⟩ := settled.mixes.reports event (Command.mem_eventsOf member)
          exact .inr ⟨rfl, trivial⟩
        · exact .inl works
      calls := by
        rw [List.filterMap_append, uncalled, List.nil_append]
        exact settled.perm_calls responsive saves
      edits := by
        intro event member document edited
        rcases List.mem_append.mp member with announced | worked
        · obtain ⟨request, answer⟩ := event
          have announced := announces _ announced
          cases request with
          | replace => cases announced
          | registerCommand | registerScheme | notify | save | run | confirm => cases edited
        · exact settled.mixes.edits event worked document edited }

theorem accounts_performOn (runner : Runner) (files : List Path) (schedule : List Command.Turn)
    (terminal : Terminal) (opened : Machine) :
    let opening := (preamble terminal).run (terminal.host runner) ⟨opened, []⟩
    ∃ endings mixed, Accounts terminal opened opening endings mixed
      (mapRun .ok ((formatFiles files schedule).performOn runner terminal opened)) := by
  intro opening
  have responsive := terminal.host_responsive runner
  let pool := ((Command.Pool.start (workspace terminal) opening.state).follow
    (terminal.host runner) schedule).settle (terminal.host runner)
  have settled : pool.Settled (terminal.host runner) (workspace terminal) :=
    Command.Pool.settled_settle responsive.hears
      (Command.Pool.sound_follow responsive.hears (Command.Pool.sound_start opening.state) schedule)
  refine ⟨pool.workers.map Command.Worker.value?, pool.trace, ?_⟩
  unfold performOn performUnder
  simp only [(preamble_run responsive terminal ⟨opened, []⟩).1]
  exact accounts_settled settled pool.state

/-- Formatting files loses none of them, whatever they load as and whatever their workers come to. -/
theorem formatFiles_accounts {options : TerminalOptions} {machine : Machine} {settings : Settings}
    (loaded : Terminal.settingsOf options machine = .ok settings) (runner : Runner)
    (files : List Path) (schedule : List Command.Turn) :
    let run := (formatFiles files schedule).perform runner options machine
    let (terminal, opened) := Terminal.ofArguments settings files options.assumeYes machine
    let opening := (preamble terminal).run (terminal.host runner) ⟨opened, []⟩
    opened.tree = machine.tree ∧
    (∃ results, Terminal.Loads machine files results opened ∧
      Terminal.Divides files results terminal.documents terminal.unreadable) ∧
    (∃ endings mixed, Accounts terminal opened opening endings mixed run) ∧
    ∃ report, run.value = some (.ok (.report report)) ∧ report.outcomes.length = files.length := by
  intro run
  have performed : run = mapRun .ok ((formatFiles files schedule).performOn runner
      (Terminal.ofArguments settings files options.assumeYes machine).1
      (Terminal.ofArguments settings files options.assumeYes machine).2) := by
    rw [Terminal.settingsOf] at loaded
    simp only [run, perform, performWith, setUp, Operation.files, loaded]
    rfl
  rw [performed]
  have lengths := Terminal.length_ofArguments settings files options.assumeYes machine
  obtain ⟨endings, mixed, accounts⟩ := accounts_performOn runner files schedule
    (Terminal.ofArguments settings files options.assumeYes machine).1
    (Terminal.ofArguments settings files options.assumeYes machine).2
  refine ⟨Terminal.openEach_tree machine files,
    Terminal.divides_ofArguments settings files options.assumeYes machine,
    ⟨endings, mixed, accounts⟩, _, accounts.report, ?_⟩
  rw [List.length_append, List.length_map, List.length_zipWith, accounts.each, Nat.min_self,
    Nat.add_comm]
  exact lengths

/-! ### Files of every kind -/

/-- A machine with an interpreter, two sources, and a file that is no text. -/
def mixedMachine : Machine where
  tree := ⟨[([Settings.fileName], .file (Text.encode Terminal.interpreterSettings) false),
    (["a.py"], .file (Text.encode "a = 1") false), (["b.py"], .file (Text.encode "b = 2") false),
    (["logo.png"], .file [0x89, 0x50, 0x4E, 0x47, 0xFF] false)]⟩
  directory := []
  stdin := []
  stdout := []
  stderr := []

/-- A tool whose process breaks off on one file. -/
def breaking (file : String) : Runner := fun call machine =>
  (if call.arguments.contains file then none
    else some (.ok ⟨true, some 0, Text.encode "# cleaned\n", []⟩), machine)

/-- A file that is named twice and whose workers panic, two files without a document, and a file that is
formatted all the same. -/
theorem formatFiles_accounts_mixed :
    let files := [⟨"b.py"⟩, ⟨"logo.png"⟩, ⟨"a.py"⟩, ⟨"missing.py"⟩, ⟨"b.py"⟩]
    let run := (formatFiles files [.worker 1, .worker 0]).perform (breaking "/b.py") {} mixedMachine
    Terminal.settingsOf {} mixedMachine = .ok { interpreterPath := some "python" } ∧
      (∃ terminal opened opening endings mixed,
        Accounts terminal opened opening endings mixed run) ∧
      run.value = some (.ok (.report ⟨[
        .failed "Could not open \"logo.png\": stream did not contain valid UTF-8",
        .failed "Could not open \"missing.py\": No such file or directory (os error 2)",
        .failed "Formatting \"b.py\" panicked",
        .succeeded "Successfully formatted \"a.py\"",
        .failed "Formatting \"b.py\" panicked"]⟩)) := by
  intro files run
  have loaded : Terminal.settingsOf {} mixedMachine =
      .ok { interpreterPath := some "python" } := by decide +kernel
  obtain ⟨-, -, ⟨endings, mixed, accounts⟩, -⟩ :=
    formatFiles_accounts loaded (breaking "/b.py") files [.worker 1, .worker 0]
  exact ⟨loaded, ⟨_, _, _, endings, mixed, accounts⟩, by decide +kernel⟩

end Operation

end EditorBridge
