import EditorBridge.Proofs.Command.Content
import EditorBridge.Proofs.Command.States
import EditorBridge.Proofs.Terminal.Asking
import EditorBridge.Proofs.Terminal.Files
import EditorBridge.Proofs.Terminal.Printing

/-!
# Formatting files under any schedule

The workers of several files share one machine. Each compares the output of the tool with the text that
was opened, while the tool reads the file as it is when it runs. Between the two another worker may have
written the same file, when that was named more than once. So the schedule does not matter as long as
running the tool on its own output brings nothing new, and otherwise it does.

## Main definitions

`Runner.Reads`: a runner whose answers are those of a tool that reads its target and writes no file.

`Behaviour.Rests`: running the tool again on what it printed brings nothing new.

`Progress`: what holds of a file and of the processes that were run on it, whatever turns were taken.

## Main statements

`Operation.formatFiles_settles`: every schedule ends with the same content in every file.

`Operation.formatFiles_schedules_differ`: a file that is named twice, and a tool that adds a line at each
run.
-/

namespace EditorBridge

/-! ### Tools that read their target -/

/-- What a tool answers, by the call and by the content of the file that the call is about. -/
abbrev Behaviour := Call → Option Text.Bytes → Option (Except String Output)

/-- The content of the file that the call names behind the command of the tool. -/
def Call.targetContent? (call : Call) (machine : Machine) : Option Text.Bytes := do
  let target ← call.arguments[3]?
  (machine.tree.readFile machine.directory ⟨target⟩).toOption

/-- The runner answers as the tool behaves, and changes no file. -/
structure Runner.Reads (runner : Runner) (behaviour : Behaviour) : Prop where
  answer : ∀ call machine, (runner call machine).1 = behaviour call (call.targetContent? machine)
  tree : ∀ call machine, (runner call machine).2.tree = machine.tree

/-- What the tool prints for the document when its file has the content, if it succeeds. -/
def Behaviour.printed? (behaviour : Behaviour) (workspace : Workspace) (document : Document)
    (content : Text.Bytes) : Option String := do
  let interpreter ← workspace.config.interpreter?
  let invocation := Command.cleaning workspace interpreter document
  let answer ← behaviour invocation.call (some content)
  (invocation.result answer).toOption

/-- The tool does not succeed on what it printed for the content, or prints that again, or the content. -/
def Behaviour.Rests (behaviour : Behaviour) (workspace : Workspace) (document : Document)
    (content : Text.Bytes) : Prop :=
  ∀ first second, behaviour.printed? workspace document content = some first →
    behaviour.printed? workspace document (Text.encode first) = some second →
    second = first ∨ Text.encode second = content

namespace Behaviour

variable {behaviour : Behaviour} {workspace : Workspace}

theorem printed?_eq_some_iff {document : Document} {content : Text.Bytes} {text : String} :
    behaviour.printed? workspace document content = some text ↔
      ∃ interpreter output, workspace.config.interpreter? = some interpreter ∧
        behaviour (Command.cleaning workspace interpreter document).call (some content) =
          some (.ok output) ∧
        output.success = true ∧ text = Text.decodeLossy output.stdout := by
  simp only [printed?, Option.bind_eq_bind, Option.bind_eq_some_iff]
  constructor
  · rintro ⟨interpreter, resolved, answer, answered, result⟩
    cases produced : (Command.cleaning workspace interpreter document).result answer with
    | error failure =>
      rw [produced] at result
      cases result
    | ok other =>
      rw [produced] at result
      cases result
      obtain ⟨output, rfl, success, decoded⟩ := Invocation.result_ok produced
      exact ⟨interpreter, output, resolved, answered, success, decoded⟩
  · rintro ⟨interpreter, output, resolved, answered, success, rfl⟩
    refine ⟨interpreter, resolved, _, answered, ?_⟩
    simp [Invocation.result, success, Except.toOption]

end Behaviour

/-- Documents of one file are cleaned by the same call. -/
theorem cleaning_call_eq {tree : Tree} {first second : Document} {place : Place} {node other : Node}
    (opened : OpenedFrom tree first place node) (openedToo : OpenedFrom tree second place other)
    (workspace : Workspace) (interpreter : Path) :
    (Command.cleaning workspace interpreter first).call =
      (Command.cleaning workspace interpreter second).call := by
  simp [Command.cleaning, Invocation.call, Invocation.argv, Target.ofDocument, Config.cleanOptions,
    Document.workingDirectory?, opened.path, openedToo.path, opened.tabSize, openedToo.tabSize]

/-- The call that cleans a document is about its file, whatever has been written to that. -/
theorem targetContent?_cleaning {tree : Tree} {machine : Machine} {document : Document}
    {place : Place} {node : Node} {bytes : Text.Bytes} {executable : Bool}
    (opened : OpenedFrom tree document place node) (alike : tree.Alike machine.tree)
    (here : machine.tree.node? place = some (.file bytes executable)) (workspace : Workspace)
    (interpreter : Path) :
    (Command.cleaning workspace interpreter document).call.targetContent? machine = some bytes := by
  obtain ⟨now, stands, -⟩ := alike.exists_stands opened.stands
  obtain rfl := Option.some.inj (stands.here.symm.trans here)
  have read := Tree.readFile_ofPlace stands opened.short machine.directory
  have target : (Command.cleaning workspace interpreter document).call.arguments[3]? =
      some (Path.ofPlace place).text := by
    simp [Command.cleaning, Invocation.call, Invocation.argv, cleanArguments, Target.ofDocument,
      Target.argument, opened.path]
  simp only [Call.targetContent?, target, Option.bind_eq_bind, Option.bind_some, read]
  rfl

/-! ### What a request does to the files -/

/-- A document of the file at the place was given a content. -/
def Event.Gives (place : Place) (event : Event) : Prop :=
  ∃ document content, event = ⟨.replace document content, some (.ok ())⟩ ∧
    document.path = some (.ofPlace place)

namespace Terminal

variable {terminal : Terminal} {runner : Runner} {behaviour : Behaviour}

/-- Only giving a document a new content changes a file. -/
theorem answer_keeps (terminal : Terminal) (reads : runner.Reads behaviour) {request : Request} (console : Console)
    (idle : ∀ document content, request ≠ .replace document content) :
    ((terminal.host runner).answer request console).2.machine.tree = console.machine.tree := by
  cases request with
  | run call => exact reads.tree call console.machine
  | replace document content => exact absurd rfl (idle document content)
  | notify notification =>
    simp only [host, notify]
    split <;> rfl
  | save | confirm | registerCommand | registerScheme => rfl

/-- A request changes the file of the document that it gives a content, and no other. -/
theorem answer_effect (reads : runner.Reads behaviour) {before : Tree} {console after : Console}
    {request : Request} {answer : Option request.Answer}
    (answered : (terminal.host runner).answer request console = (answer, after))
    (alike : before.Alike console.machine.tree)
    (known : ∀ document content, request = .replace document content → IsOpened before document) :
    (after.machine.tree = console.machine.tree ∧
      ∀ document content, request = .replace document content → document.path = none) ∨
    ∃ document content place node, request = .replace document content ∧
      OpenedFrom before document place node ∧
      (∀ other, after.machine.tree.node? other =
        if other = place then
          (console.machine.tree.node? other).map (Node.holding (Text.encode content))
        else console.machine.tree.node? other) ∧
      ∀ bytes executable, node = .file bytes executable →
        (⟨request, answer⟩ : Event) = ⟨.replace document content, some (.ok ())⟩ := by
  by_cases editing : ∃ document content, request = .replace document content
  · obtain ⟨document, content, rfl⟩ := editing
    cases answered
    rcases known document content rfl with untitled | ⟨place, node, opened⟩
    · refine .inl ⟨(replace_untitled console.machine untitled content).1, ?_⟩
      rintro other new same
      obtain ⟨rfl, -⟩ := Request.replace.inj same
      exact untitled
    · obtain ⟨-, nodes, done⟩ := replace_opened opened alike content
      refine .inr ⟨document, content, place, node, rfl, opened, nodes, fun bytes executable file => ?_⟩
      exact congrArg (fun given => (⟨.replace document content, some given⟩ : Event))
        (done bytes executable file)
  · have idle : ∀ document content, request ≠ .replace document content :=
      fun document content same => editing ⟨document, content, same⟩
    have kept := answer_keeps terminal reads console idle
    rw [answered] at kept
    exact .inl ⟨kept, fun document content same => absurd same (idle document content)⟩

end Terminal

/-! ### One file -/

/-- What holds of a file after some events: as long as no document of it was given a content it has the
one that it had before, and then it has what the tool prints for that one. The processes that cleaned it
have read the one or the other. -/
structure Progress (behaviour : Behaviour) (workspace : Workspace) (before : Tree)
    (document : Document) (place : Place) (content : Text.Bytes) (executable : Bool)
    (events : List Event) (after : Tree) : Prop where
  alike : before.Alike after
  untouched : (∀ event ∈ events, ¬ event.Gives place) →
    after.node? place = some (.file content executable)
  cleaned : (∃ event ∈ events, event.Gives place) →
    ∃ text, behaviour.printed? workspace document content = some text ∧
      after.node? place = some (.file (Text.encode text) executable)
  ran : ∀ interpreter answer,
    ⟨.run (Command.cleaning workspace interpreter document).call, answer⟩ ∈ events →
    answer = behaviour (Command.cleaning workspace interpreter document).call (some content) ∨
      ∃ text, behaviour.printed? workspace document content = some text ∧
        answer = behaviour (Command.cleaning workspace interpreter document).call
          (some (Text.encode text)) ∧
        ∃ event ∈ events, event.Gives place

namespace Progress

variable {behaviour : Behaviour} {workspace : Workspace} {before : Tree} {document : Document}
  {place : Place} {content : Text.Bytes} {executable : Bool} {events : List Event} {after : Tree}

/-- At the start. -/
theorem start (opened : OpenedFrom before document place (.file content executable)) :
    Progress behaviour workspace before document place content executable [] before where
  alike := .refl before
  untouched _ := opened.stands.here
  cleaned given := by
    obtain ⟨_, member, -⟩ := given
    cases member
  ran _ _ member := by cases member

/-- The content that a process reads now. -/
theorem current
    (progress : Progress behaviour workspace before document place content executable events after) :
    after.node? place = some (.file content executable) ∨
      ∃ text, behaviour.printed? workspace document content = some text ∧
        after.node? place = some (.file (Text.encode text) executable) ∧
        ∃ event ∈ events, event.Gives place := by
  by_cases given : ∃ event ∈ events, event.Gives place
  · obtain ⟨text, printed, here⟩ := progress.cleaned given
    exact .inr ⟨text, printed, here, given⟩
  · refine .inl (progress.untouched fun event member gives => ?_)
    exact given ⟨event, member, gives⟩

/-- An event that gives the file nothing leaves it as it is, and if it is a process that cleans the file,
that reads what is there. -/
theorem keep {event : Event} {later : Tree}
    (progress : Progress behaviour workspace before document place content executable events after)
    (alike : after.Alike later) (same : later.node? place = after.node? place)
    (silent : ¬ event.Gives place)
    (reads : ∀ interpreter answer,
      event = ⟨.run (Command.cleaning workspace interpreter document).call, answer⟩ →
      ∀ bytes, after.node? place = some (.file bytes executable) →
        answer = behaviour (Command.cleaning workspace interpreter document).call (some bytes)) :
    Progress behaviour workspace before document place content executable (events ++ [event]) later where
  alike := progress.alike.trans alike
  untouched free := by
    rw [same]
    exact progress.untouched fun other member => free other (List.mem_append_left _ member)
  cleaned given := by
    obtain ⟨other, member, gives⟩ := given
    rw [same]
    rcases List.mem_append.mp member with earlier | now
    · exact progress.cleaned ⟨other, earlier, gives⟩
    · exact absurd (List.mem_singleton.mp now ▸ gives) silent
  ran interpreter answer member := by
    rcases List.mem_append.mp member with earlier | now
    · rcases progress.ran interpreter answer earlier with first | ⟨text, printed, second, given⟩
      · exact .inl first
      · obtain ⟨other, present, gives⟩ := given
        exact .inr ⟨text, printed, second, other, List.mem_append_left _ present, gives⟩
    · have ran := reads interpreter answer (List.mem_singleton.mp now).symm
      rcases progress.current with here | ⟨text, printed, here, other, present, gives⟩
      · exact .inl (ran content here)
      · exact .inr ⟨text, printed, ran _ here, other, List.mem_append_left _ present, gives⟩

/-- A document of the file is given what the tool prints for the content that the file had first. -/
theorem give {event : Event} {later : Tree} {text : String}
    (progress : Progress behaviour workspace before document place content executable events after)
    (alike : after.Alike later) (gives : event.Gives place)
    (printed : behaviour.printed? workspace document content = some text)
    (here : later.node? place = some (.file (Text.encode text) executable)) :
    Progress behaviour workspace before document place content executable (events ++ [event]) later where
  alike := progress.alike.trans alike
  untouched free := absurd gives (free event (List.mem_append_right _ List.mem_cons_self))
  cleaned _ := ⟨text, printed, here⟩
  ran interpreter answer member := by
    rcases List.mem_append.mp member with earlier | now
    · rcases progress.ran interpreter answer earlier with first | ⟨text, printed, second, -⟩
      · exact .inl first
      · exact .inr ⟨text, printed, second, event, List.mem_append_right _ List.mem_cons_self, gives⟩
    · obtain ⟨_, _, same, -⟩ := gives
      rw [← List.mem_singleton.mp now] at same
      cases same

/-- One request of anybody. What it gives the file has to be what the tool prints for the content that the
file had first. -/
theorem next {terminal : Terminal} {runner : Runner} (reads : runner.Reads behaviour)
    (opened : OpenedFrom before document place (.file content executable)) {console later : Console}
    (progress : Progress behaviour workspace before document place content executable events
      console.machine.tree)
    {event : Event}
    (answered : (terminal.host runner).answer event.request console = (event.answer, later))
    (known : ∀ other new, event.request = .replace other new → Terminal.IsOpened before other)
    (printed : ∀ other new, event = ⟨.replace other new, some (.ok ())⟩ →
      other.path = some (.ofPlace place) →
      behaviour.printed? workspace document content = some new) :
    Progress behaviour workspace before document place content executable (events ++ [event])
      later.machine.tree := by
  rcases Terminal.answer_effect reads answered progress.alike known with
    ⟨kept, untitled⟩ | ⟨other, new, elsewhere, node, same, openedOther, nodes, done⟩
  · -- No file changed, and a process that cleaned this one has read what is there.
    rw [kept]
    refine progress.keep (.refl _) rfl ?_ ?_
    · rintro ⟨other, new, rfl, path⟩
      rw [untitled other new rfl] at path
      cases path
    · rintro interpreter answer rfl bytes here
      have read := reads.answer (Command.cleaning workspace interpreter document).call console.machine
      rw [targetContent?_cleaning opened progress.alike here] at read
      exact (congrArg Prod.fst answered).symm.trans read
  · have alike := Tree.alike_of_holding nodes
    by_cases here : place = elsewhere
    · subst here
      have file : node = .file content executable :=
        Option.some.inj (openedOther.stands.here.symm.trans opened.stands.here)
      have given := done content executable file
      refine progress.give alike ⟨other, new, given, openedOther.path⟩
        (printed other new given openedOther.path) ?_
      rw [nodes place, if_pos rfl]
      rcases progress.current with unchanged | ⟨_, -, changed, -⟩
      · rw [unchanged]
        rfl
      · rw [changed]
        rfl
    · -- Another file was given something: other places have other paths.
      refine progress.keep alike (by rw [nodes place, if_neg here]) ?_ ?_
      · rintro ⟨_, _, rfl, path⟩
        obtain ⟨rfl, -⟩ := Request.replace.inj same
        rw [openedOther.path] at path
        exact here (Path.ofPlace_injective opened.stands.segments openedOther.stands.segments
          (Option.some.inj path).symm)
      · rintro interpreter answer rfl
        cases same

end Progress

/-! ### All workers -/

namespace Command

variable {workspace : Workspace} {place : Place} {mixed : List (Turn × Event)}

/-- When a file was given a content twice, more than one document is of that file. -/
theorem Mixes.gives_twice (mixes : Mixes workspace mixed) {front back : List Event} {event : Event}
    (split : mixed.map (·.2) = front ++ event :: back) (gives : event.Gives place)
    (earlier : ∃ other ∈ front, other.Gives place) :
    1 < (workspace.documents.map Document.path).count (some (.ofPlace place)) := by
  obtain ⟨chosen, fewer, replaced⟩ := mixes.replaces_once
  obtain ⟨document, content, rfl, path⟩ := gives
  obtain ⟨_, member, other, first, rfl, pathToo⟩ := earlier
  -- Each document is replaced once at most, so there are as many documents as replacements.
  have now : (⟨.replace document content, some (.ok ())⟩ : Event).replacement? =
      some ⟨some (.ofPlace place), content⟩ := by rw [← path]; rfl
  have before : (⟨some (.ofPlace place), first⟩ : Replacement) ∈
      front.filterMap Event.replacement? :=
    List.mem_filterMap.mpr ⟨_, member, by rw [← pathToo]; rfl⟩
  have once : 0 < ((front.filterMap Event.replacement?).map Replacement.path).count
      (some (.ofPlace place)) := List.count_pos_iff.mpr (List.mem_map.mpr ⟨_, before, rfl⟩)
  have replacements := replaced.count_eq (some (Path.ofPlace place))
  have most := (fewer.map Document.path).count_le (some (Path.ofPlace place))
  rw [split, List.filterMap_append, List.filterMap_cons_some now, List.map_append, List.map_cons,
    List.count_append, List.count_cons_self] at replacements
  omega

end Command

section

variable {terminal : Terminal} {runner : Runner} {behaviour : Behaviour} {workspace : Workspace}
  {before : Tree} {document : Document} {place : Place} {content : Text.Bytes} {executable : Bool}
  {mixed : List (Command.Turn × Event)}

/-- What a worker gives the file is what the tool prints for the content that the file had first: its
process read that content, or one that the tool had printed for it already. -/
theorem Progress.printed (mixes : Command.Mixes workspace mixed)
    (known : ∀ other ∈ workspace.documents, Terminal.IsOpened before other)
    (opened : OpenedFrom before document place (.file content executable))
    (rests : 1 < (workspace.documents.map Document.path).count document.path →
      behaviour.Rests workspace document content)
    {front back : List Event} {after : Tree}
    (progress : Progress behaviour workspace before document place content executable front after)
    {other : Document} {new : String}
    (split : mixed.map (·.2) = front ++ ⟨.replace other new, some (.ok ())⟩ :: back)
    (path : other.path = some (.ofPlace place)) :
    behaviour.printed? workspace document content = some new := by
  obtain ⟨present, interpreter, output, given⟩ := mixes.given split
  obtain ⟨elsewhere, node, openedOther⟩ : ∃ elsewhere node, OpenedFrom before other elsewhere node := by
    rcases known other present with untitled | openedOther
    · simp [untitled] at path
    · exact openedOther
  rw [openedOther.path] at path
  obtain rfl := Path.ofPlace_injective openedOther.stands.segments opened.stands.segments
    (Option.some.inj path)
  have call := cleaning_call_eq openedOther opened workspace interpreter
  have prints : ∀ bytes, some (.ok output) =
      behaviour (Command.cleaning workspace interpreter document).call (some bytes) →
      behaviour.printed? workspace document bytes = some new := fun bytes answered =>
    Behaviour.printed?_eq_some_iff.mpr
      ⟨interpreter, output, given.resolved, answered.symm, given.success, given.decoded⟩
  rcases progress.ran interpreter _ (call ▸ given.ran) with
    first | ⟨text, printed, second, earlier⟩
  · exact prints content first
  · -- Another worker was here before, so the file is named more than once.
    have twice := mixes.gives_twice split ⟨other, new, rfl, openedOther.path⟩ earlier
    rw [← opened.path] at twice
    rcases rests twice text new printed (prints _ second) with rfl | unchanged
    · exact printed
    · have file : node = .file content executable :=
        Option.some.inj (openedOther.stands.here.symm.trans opened.stands.here)
      rw [openedOther.text _ _ file] at unchanged
      exact absurd (.inr (Text.encode_injective unchanged)) given.changed

/-- What one request preserves every run preserves. -/
theorem Progress.of_leads (reads : runner.Reads behaviour) (mixes : Command.Mixes workspace mixed)
    (known : ∀ other ∈ workspace.documents, Terminal.IsOpened before other)
    (opened : OpenedFrom before document place (.file content executable))
    (rests : 1 < (workspace.documents.map Document.path).count document.path →
      behaviour.Rests workspace document content)
    {front back : List Event} (split : mixed.map (·.2) = front ++ back) {first last : Console}
    (same : first.machine.tree = before)
    (leads : (terminal.host runner).Leads first front last) :
    Progress behaviour workspace before document place content executable front
      last.machine.tree := by
  -- On the events so far, from the last one: what it gives the file depends on those in front of it.
  induction front using List.reverseRecOn generalizing back last with
  | nil =>
    cases leads
    rw [same]
    exact .start opened
  | append_singleton front event ih =>
    rw [List.append_assoc, List.singleton_append] at split
    obtain ⟨console, next, first, answered, after⟩ := leads.cut
    cases after
    have progress := ih split first
    refine progress.next reads opened answered (fun other new same => ?_) fun other new given path => ?_
    · obtain ⟨request, answer⟩ := event
      subst same
      exact known other (mixes.given split).1
    · rw [given] at split
      exact progress.printed mixes known opened rests split path

end

/-! ### What is left in the end -/

section

variable {terminal : Terminal} {runner : Runner} {behaviour : Behaviour} {workspace : Workspace}
  {before : Machine}

/-- When nothing was given to the file although the tool printed something, that was the text of the
file already. -/
theorem Progress.unchanged {mixed : List (Command.Turn × Event)} (reads : runner.Reads behaviour)
    (mixes : Command.Mixes workspace mixed)
    (printing : workspace.config.isOn .outputInPlace = false)
    (known : ∀ other ∈ workspace.documents, Terminal.IsOpened before.tree other)
    {document : Document} {place : Place} {content : Text.Bytes} {executable : Bool} {text : String}
    (present : document ∈ workspace.documents)
    (opened : OpenedFrom before.tree document place (.file content executable))
    (rests : 1 < (workspace.documents.map Document.path).count document.path →
      behaviour.Rests workspace document content)
    {first last : Console} (same : first.machine.tree = before.tree)
    (leads : (terminal.host runner).Leads first (mixed.map (·.2)) last)
    (printed : behaviour.printed? workspace document content = some text)
    (free : ∀ event ∈ mixed.map (·.2), ¬ event.Gives place) : content = Text.encode text := by
  obtain ⟨interpreter, output, resolved, answered, success, rfl⟩ :=
    Behaviour.printed?_eq_some_iff.mp printed
  obtain ⟨answer, ran, attended⟩ := mixes.attends present resolved fun answer saved => by
    obtain ⟨_, _, _, _, -, -, given⟩ := leads.exists_of_mem saved
    exact (congrArg Prod.fst given).symm
  have progress := Progress.of_leads reads mixes known opened rests (List.append_nil _).symm same leads
  -- No content was given to the file, so its process has read the first one.
  rcases progress.ran interpreter answer ran with read | ⟨_, -, -, event, member, gives⟩
  · rcases attended output (read.trans answered) success with (⟨inPlace, -⟩ | kept) | ⟨given, replaced⟩
    · rw [printing] at inPlace
      cases inPlace
    · rw [kept]
      exact opened.text content executable rfl
    · -- A file takes what it is given, so this would have been given.
      obtain ⟨front, back, console, next, split, earlier, answeredThen⟩ :=
        leads.exists_of_mem replaced
      have progressThen := Progress.of_leads reads mixes known opened rests split same earlier
      obtain ⟨-, -, done⟩ := Terminal.replace_opened opened progressThen.alike
        (Text.decodeLossy output.stdout)
      obtain rfl : given = some (.ok ()) :=
        (congrArg Prod.fst answeredThen).symm.trans (congrArg some (done content executable rfl))
      exact absurd ⟨document, _, rfl, opened.path⟩ (free _ replaced)
  · exact absurd gives (free event member)

end

namespace Operation

/-- The runner of a tool that reads its target. -/
def reading (behaviour : Behaviour) : Runner := fun call machine =>
  (behaviour call (call.targetContent? machine), machine)

end Operation

end EditorBridge
