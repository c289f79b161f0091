import EditorBridge.Proofs.Command.Editing
import EditorBridge.Proofs.Text.Decoding

/-!
# The content that buffers are given

A buffer is given the decoded output of the process that cleaned its document. The bytes of that
content are the bytes of the output when these are valid, and other bytes when they are not: nothing
between the process and the buffer holds back an output that is no text.

## Main statements

`buffers_decoded`: in formatting a document, and in formatting all documents under any schedule, which
content is handed over and when.

`formatDocument_alters`: an output that is not valid is written over the source in altered form.
-/

namespace EditorBridge.Command

/-! ### One document -/

/-- What follows saving: nothing without an interpreter or when saving did not go well, a process that
did not succeed, an output that leaves the buffer as it is, or an output that the buffer is given. -/
inductive Hands (workspace : Workspace) (document : Document) (saves : List Event) :
    List Event → Prop
  | unresolved : workspace.config.interpreter? = none → Hands workspace document saves []
  | unsaved {answer : Option (Except Error Unit)} : answer ≠ some (.ok ()) →
      ⟨.save document, answer⟩ ∈ saves → Hands workspace document saves []
  | failed {interpreter : Path} {answer : Option (Except String Output)} :
      workspace.config.interpreter? = some interpreter →
      (∀ output, answer = some (.ok output) → output.success = false) →
      Hands workspace document saves
        [⟨.run (cleaning workspace interpreter document).call, answer⟩]
  | kept {interpreter : Path} {output : Output} :
      workspace.config.interpreter? = some interpreter → output.success = true →
      Kept workspace document (Text.decodeLossy output.stdout) →
      Hands workspace document saves
        [⟨.run (cleaning workspace interpreter document).call, some (.ok output)⟩]
  | handed {interpreter : Path} {output : Output} {answer : Option (Except Error Unit)} :
      workspace.config.interpreter? = some interpreter → output.success = true →
      ¬ Kept workspace document (Text.decodeLossy output.stdout) →
      Hands workspace document saves
        [⟨.run (cleaning workspace interpreter document).call, some (.ok output)⟩,
          ⟨.replace document (Text.decodeLossy output.stdout), answer⟩]

/-- The event is neither about a process nor about the content of a buffer. -/
def Aside (event : Event) : Prop := event.call? = none ∧ event.edited? = none

variable {workspace : Workspace} {document : Document} {save : Bool} {trace : List Event}

theorem goes_saveFirst_aside {ending : Option (Except Error Unit)}
    (goes : (saveFirst save document).Goes trace ending) : ∀ event ∈ trace, Aside event := by
  rcases goes_saveFirst goes with ⟨-, rfl⟩ | ⟨-, rfl, -⟩
  · intro event member
    obtain rfl := List.mem_singleton.mp member
    exact ⟨rfl, rfl⟩
  · exact List.forall_mem_nil _

/-- Saving that does not end well is a request with that answer. -/
theorem Hands.of_unsaved {ending : Option (Except Error Unit)}
    (goes : (saveFirst save document).Goes trace ending) (failed : ending ≠ some (.ok ())) :
    Hands workspace document trace [] := by
  rcases goes_saveFirst goes with ⟨-, rfl⟩ | ⟨-, -, well⟩
  · exact .unsaved failed List.mem_cons_self
  · exact absurd well failed

theorem goes_clean_hands {ending : Option (Except Error String)}
    (goes : (clean workspace document save).Goes trace ending) :
    ∃ saves work, trace = saves ++ work ∧ (∀ event ∈ saves, Aside event) ∧
      Hands workspace document saves work := by
  unfold clean at goes
  split at goes
  next missing =>
    obtain ⟨rfl, -⟩ := (Program.goes_done ..).mp goes
    exact ⟨[], [], rfl, List.forall_mem_nil _, .unresolved missing⟩
  next interpreter resolved =>
    rcases (Program.goes_bind ..).mp goes with
      ⟨first, -⟩ | ⟨saving, saves, afterSaves, rfl, first, afterSaving⟩
    · exact ⟨trace, [], (List.append_nil _).symm, goes_saveFirst_aside first,
        .of_unsaved first nofun⟩
    have aside := goes_saveFirst_aside first
    rcases saving with error | _
    · obtain ⟨rfl, -⟩ := (Program.goes_done ..).mp afterSaving
      exact ⟨saves, [], rfl, aside, .of_unsaved first nofun⟩
    -- The answer to the call decides whether anything comes behind it.
    refine ⟨saves, afterSaves, rfl, aside, ?_⟩
    rcases (Program.goes_invoke_bind ..).mp afterSaving with
      ⟨answer, rest, rfl, afterCalling⟩ | ⟨rfl, -⟩
    · cases produced : (cleaning workspace interpreter document).result answer with
      | error failure =>
        rw [produced] at afterCalling
        obtain ⟨rfl, -⟩ := (Program.goes_done ..).mp afterCalling
        refine .failed resolved fun output same => ?_
        cases same
        exact Invocation.not_succeeded_of_result_error produced
      | ok content =>
        obtain ⟨output, rfl, success, rfl⟩ := Invocation.result_ok produced
        rw [produced] at afterCalling
        rcases (Program.goes_bind ..).mp afterCalling with
          ⟨applied, -⟩ | ⟨applying, front, back, rfl, applied, afterApplying⟩
        · rcases goes_applyOutput applied with ⟨-, -, missing⟩ | ⟨changed, rfl⟩
          · cases missing
          · exact .handed resolved success changed
        · -- Nothing is asked for once the output was applied.
          have ended : back = [] := by
            cases applying <;> exact ((Program.goes_done ..).mp afterApplying).1
          subst ended
          rcases goes_applyOutput applied with ⟨kept, rfl, -⟩ | ⟨changed, rfl⟩
          · exact .kept resolved success kept
          · exact .handed resolved success changed
    · exact .failed resolved nofun

theorem goes_formatDocument_hands {ending : Option Outcome}
    (goes : (formatDocument workspace document save).Goes trace ending) :
    ∃ saves work told, trace = saves ++ work ++ told ∧ Hands workspace document saves work ∧
      (∀ event ∈ saves, Aside event) ∧ ∀ event ∈ told, Aside event := by
  rcases (Program.goes_bind ..).mp goes with ⟨first, -⟩ | ⟨result, front, told, rfl, first, last⟩
  · obtain ⟨saves, work, rfl, aside, hands⟩ := goes_clean_hands first
    exact ⟨saves, work, [], (List.append_nil _).symm, hands, aside, List.forall_mem_nil _⟩
  · obtain ⟨saves, work, rfl, aside, hands⟩ := goes_clean_hands first
    have telling : (Program.report (.ofResult result)).Always Aside :=
      Program.always_report fun _ _ => ⟨rfl, rfl⟩
    exact ⟨saves, work, told, rfl, hands, aside, telling told ending last⟩

/-- The content was decoded from what a process printed that cleaned the document, and has the bytes
of that output when they are valid. -/
def Decoded (workspace : Workspace) (front : List Event) (document : Document) (content : String) :
    Prop :=
  ∃ interpreter output,
    (⟨.run (cleaning workspace interpreter document).call, some (.ok output)⟩ : Event) ∈ front ∧
    output.success = true ∧ content = Text.decodeLossy output.stdout ∧
    (Text.encode content = output.stdout ↔ output.stdout.toByteArray.IsValidUTF8) ∧
    (¬ output.stdout.toByteArray.IsValidUTF8 → Text.replacement ∈ content.toList)

/-- The buffer of a document that the process cleaned is given the decoded output, unless it stays as
it is. -/
def Delivered (workspace : Workspace) (back : List Event) (call : Call) (output : Output) : Prop :=
  ∃ interpreter document, call = (cleaning workspace interpreter document).call ∧
    (Kept workspace document (Text.decodeLossy output.stdout) ∨
      ∃ answer, (⟨.replace document (Text.decodeLossy output.stdout), answer⟩ : Event) ∈ back)

/-- Every content handed over was decoded from an output before, and every output of a success is
delivered behind it. -/
structure HandsOver (workspace : Workspace) (trace : List Event) : Prop where
  decoded : ∀ front back document content answer,
    trace = front ++ ⟨.replace document content, answer⟩ :: back →
    Decoded workspace front document content
  delivered : ∀ front back call output,
    trace = front ++ ⟨.run call, some (.ok output)⟩ :: back → output.success = true →
    Delivered workspace back call output

section

variable {saves work told : List Event} (before : ∀ event ∈ saves, Aside event)
  (behind : ∀ event ∈ told, Aside event) {event : Event} (concerned : ¬ Aside event)

include before concerned in
theorem not_mem_of_aside : event ∉ saves := fun member => concerned (before event member)

include before behind concerned in
/-- What is about a process or a content stands between saving and telling. -/
theorem mem_work_of_split {front back : List Event}
    (split : saves ++ work ++ told = front ++ event :: back) : event ∈ work := by
  have present : event ∈ saves ++ work ++ told := by
    rw [split]
    exact List.mem_append_right _ List.mem_cons_self
  simpa [not_mem_of_aside before concerned, not_mem_of_aside behind concerned] using present

end

theorem not_aside_run (call : Call) (answer : Option (Except String Output)) :
    ¬ Aside ⟨.run call, answer⟩ := nofun

theorem not_aside_replace (document : Document) (content : String)
    (answer : Option (Except Error Unit)) : ¬ Aside ⟨.replace document content, answer⟩ := nofun

/-- A process that cleaned the document printed the content, and the buffer is not to stay as it is. -/
structure Given (workspace : Workspace) (front : List Event) (document : Document) (content : String)
    (interpreter : Path) (output : Output) : Prop where
  resolved : workspace.config.interpreter? = some interpreter
  ran : ⟨.run (cleaning workspace interpreter document).call, some (.ok output)⟩ ∈ front
  success : output.success = true
  decoded : content = Text.decodeLossy output.stdout
  changed : ¬ Kept workspace document content

theorem Given.isDecoded {front : List Event} {content : String} {interpreter : Path} {output : Output}
    (given : Given workspace front document content interpreter output) :
    Decoded workspace front document content := by
  obtain ⟨-, ran, success, rfl, -⟩ := given
  exact ⟨interpreter, output, ran, success, rfl, Text.encode_decodeLossy_iff _,
    Text.replacement_mem_decodeLossy⟩

/-- Where the way of a document is cut at a replacement, its process stands in front. -/
theorem goes_formatDocument_given {ending : Option Outcome} {front back : List Event}
    {replaced : Document} {content : String} {answer : Option (Except Error Unit)}
    (goes : (formatDocument workspace document save).Goes
      (front ++ ⟨.replace replaced content, answer⟩ :: back) ending) :
    replaced = document ∧
      ∃ interpreter output, Given workspace front document content interpreter output := by
  obtain ⟨saves, work, told, split, hands, before, behind⟩ := goes_formatDocument_hands goes
  have concerned := not_aside_replace replaced content answer
  have inside := mem_work_of_split before behind concerned split.symm
  cases hands with
  | unresolved | unsaved => cases inside
  | failed | kept => cases List.mem_singleton.mp inside
  | @handed interpreter output given resolved success changed =>
    -- There is one replacement only, so the trace is cut right behind the process.
    have cut : (saves ++ [⟨.run (cleaning workspace interpreter document).call,
        some (.ok output)⟩]) ++ (⟨.replace document (Text.decodeLossy output.stdout), given⟩ ::
          told) = front ++ ⟨.replace replaced content, answer⟩ :: back := by
      rw [split]
      simp
    have earlier : (⟨.replace replaced content, answer⟩ : Event) ∉
        saves ++ [⟨.run (cleaning workspace interpreter document).call, some (.ok output)⟩] := by
      intro member
      rcases List.mem_append.mp member with saving | process
      · exact concerned (before _ saving)
      · cases List.mem_singleton.mp process
    obtain ⟨rfl, same, -⟩ :=
      (List.append_cons_inj_of_notMem earlier (not_mem_of_aside behind concerned)).mp cut
    cases same
    exact ⟨rfl, interpreter, output, resolved, by simp, success, rfl, changed⟩

theorem goes_formatDocument_handsOver {ending : Option Outcome}
    (goes : (formatDocument workspace document save).Goes trace ending) :
    HandsOver workspace trace := by
  constructor
  · rintro front back replaced content answer rfl
    obtain ⟨rfl, interpreter, output, given⟩ := goes_formatDocument_given goes
    exact given.isDecoded
  · intro front back call output cutHere success
    obtain ⟨saves, work, told, rfl, hands, before, behind⟩ := goes_formatDocument_hands goes
    have concerned := not_aside_run call (some (.ok output))
    have inside := mem_work_of_split before behind concerned cutHere
    cases hands with
    | unresolved | unsaved => cases inside
    | failed _ unsuccessful =>
      cases List.mem_singleton.mp inside
      rw [unsuccessful output rfl] at success
      cases success
    | @kept interpreter other _ _ kept =>
      cases List.mem_singleton.mp inside
      exact ⟨interpreter, document, rfl, .inl kept⟩
    | @handed interpreter other given =>
      -- The process ran once, so what stands behind it here is what stands behind it in the way.
      have behindRun : (⟨.run call, some (.ok output)⟩ : Event) ∉
          ⟨.replace document (Text.decodeLossy other.stdout), given⟩ :: told := by
        rintro (_ | ⟨_, member⟩)
        exact concerned (behind _ member)
      have cut : saves ++ ⟨.run (cleaning workspace interpreter document).call, some (.ok other)⟩ ::
          (⟨.replace document (Text.decodeLossy other.stdout), given⟩ :: told) =
            front ++ ⟨.run call, some (.ok output)⟩ :: back := by
        rw [← cutHere]
        simp
      obtain ⟨-, same, rfl⟩ :=
        (List.append_cons_inj_of_notMem (not_mem_of_aside before concerned) behindRun).mp cut
      cases same
      exact ⟨interpreter, document, rfl, .inr ⟨given, List.mem_cons_self⟩⟩

/-! ### All documents -/

theorem mem_of_mem_eventsOf_map {turn : Turn} {mixed : List (Turn × Event)} {event : Event}
    (member : event ∈ eventsOf turn mixed) : event ∈ mixed.map (·.2) :=
  List.mem_map.mpr ⟨_, mem_of_mem_eventsOf member, rfl⟩

/-- Where a mixture is cut at an event that is no notification, so is the way of a document. -/
theorem Mixes.exists_way {mixed : List (Turn × Event)} (mixes : Mixes workspace mixed)
    {front back : List Event} {event : Event} (split : mixed.map (·.2) = front ++ event :: back)
    (concerned : ¬ Aside event) :
    ∃ document ∈ workspace.documents, ∃ before after ending,
      (formatDocument workspace document true).Goes (before ++ event :: after) ending ∧
      (∀ other ∈ before, other ∈ front) ∧ ∀ other ∈ after, other ∈ back := by
  obtain ⟨before, rest, rfl, rfl, mapped⟩ := List.map_eq_append_iff.mp split
  obtain ⟨⟨turn, event⟩, after, rfl, rfl, rfl⟩ := List.map_eq_cons_iff.mp mapped
  have member : (turn, event) ∈ before ++ (turn, event) :: after :=
    List.mem_append_right before List.mem_cons_self
  cases turn with
  | collector =>
    -- Whoever collects the outcomes does nothing but tell them.
    obtain ⟨notification, rfl⟩ := mixes.reports event (mem_eventsOf member)
    exact absurd ⟨rfl, rfl⟩ concerned
  | worker index =>
    obtain ⟨document, ending, found, goes⟩ := mixes.way_of_mem member
    rw [eventsOf_append, eventsOf_cons_same] at goes
    exact ⟨document, List.mem_of_getElem? found, _, _, ending, goes, fun _ => mem_of_mem_eventsOf_map,
      fun _ => mem_of_mem_eventsOf_map⟩

/-- A replacement in a mixture is that of one of the documents, and its process stands in front. -/
theorem Mixes.given {mixed : List (Turn × Event)} (mixes : Mixes workspace mixed)
    {front back : List Event} {document : Document} {content : String}
    {answer : Option (Except Error Unit)}
    (split : mixed.map (·.2) = front ++ ⟨.replace document content, answer⟩ :: back) :
    document ∈ workspace.documents ∧
      ∃ interpreter output, Given workspace front document content interpreter output := by
  obtain ⟨worked, present, before, after, ending, goes, earlier, -⟩ :=
    mixes.exists_way split (not_aside_replace _ _ _)
  obtain ⟨rfl, interpreter, output, given⟩ := goes_formatDocument_given goes
  exact ⟨present, interpreter, output, { given with ran := earlier _ given.ran }⟩

/-- When saving goes well and there is an interpreter, every document has its process in a mixture, and
is replaced by what that prints unless it stays as it is. -/
theorem Mixes.attends {mixed : List (Turn × Event)} (mixes : Mixes workspace mixed)
    {document : Document} (present : document ∈ workspace.documents) {interpreter : Path}
    (resolved : workspace.config.interpreter? = some interpreter)
    (saved : ∀ answer, ⟨.save document, answer⟩ ∈ mixed.map (·.2) → answer = some (.ok ())) :
    ∃ answer, ⟨.run (cleaning workspace interpreter document).call, answer⟩ ∈ mixed.map (·.2) ∧
      ∀ output, answer = some (.ok output) → output.success = true →
        Kept workspace document (Text.decodeLossy output.stdout) ∨
          ∃ given, ⟨.replace document (Text.decodeLossy output.stdout), given⟩ ∈ mixed.map (·.2) := by
  obtain ⟨index, found⟩ := List.mem_iff_getElem?.mp present
  obtain ⟨ending, goes⟩ := mixes.ways index document found
  obtain ⟨saves, work, told, split, hands, -, -⟩ := goes_formatDocument_hands goes
  have among : ∀ event ∈ saves ++ work, event ∈ mixed.map (·.2) := by
    intro event member
    have mine : event ∈ eventsOf (.worker index) mixed := by
      rw [split]
      exact List.mem_append_left _ member
    exact mem_of_mem_eventsOf_map mine
  cases hands with
  | unresolved missing => simp [missing] at resolved
  | unsaved failed member => exact absurd (saved _ (among _ (List.mem_append_left _ member))) failed
  | @failed other answer same unsuccessful =>
    obtain rfl := Option.some.inj (resolved.symm.trans same)
    refine ⟨answer, among _ (by simp), fun output given success => ?_⟩
    rw [unsuccessful output given] at success
    cases success
  | @kept other output same success kept =>
    obtain rfl := Option.some.inj (resolved.symm.trans same)
    refine ⟨some (.ok output), among _ (by simp), fun output given _ => ?_⟩
    cases given
    exact .inl kept
  | @handed other output answer same success changed =>
    obtain rfl := Option.some.inj (resolved.symm.trans same)
    refine ⟨some (.ok output), among _ (by simp), fun output given _ => ?_⟩
    cases given
    exact .inr ⟨answer, among _ (by simp)⟩

theorem Mixes.handsOver {mixed : List (Turn × Event)} (mixes : Mixes workspace mixed) :
    HandsOver workspace (mixed.map (·.2)) where
  decoded := by
    intro front back document content answer split
    obtain ⟨-, interpreter, output, given⟩ := mixes.given split
    exact given.isDecoded
  delivered := by
    intro front back call output split success
    obtain ⟨worked, -, before, after, ending, goes, -, later⟩ :=
      mixes.exists_way split (not_aside_run _ _)
    obtain ⟨interpreter, document, same, kept | ⟨answer, given⟩⟩ :=
      (goes_formatDocument_handsOver goes).delivered before after call output rfl success
    · exact ⟨interpreter, document, same, .inl kept⟩
    · exact ⟨interpreter, document, same, .inr ⟨answer, later _ given⟩⟩

/-! ### Main theorem -/

/-- Whatever process printed it, a content that is handed over is the decoded output, and has its
bytes exactly when they are valid. Every output of a success is handed over that way unless the
buffer stays as it is. -/
theorem buffers_decoded {σ : Type} {host : Host σ} (hears : host.Hears) (workspace : Workspace)
    (state : σ) :
    (∀ document save,
      HandsOver workspace ((formatDocument workspace document save).run host state).trace) ∧
    ∀ schedule, HandsOver workspace (formatAll host schedule workspace state).trace := by
  constructor
  · intro document save
    exact goes_formatDocument_handsOver ((formatDocument workspace document save).run_goes host state)
  · intro schedule
    obtain ⟨mixed, mixes, same⟩ := formatAll_mixes hears schedule workspace state
    exact same ▸ mixes.handsOver

/-- Surroundings in which every process prints the bytes. -/
def printing (bytes : Text.Bytes) : Script :=
  ⟨fun _ => .ok (), fun _ _ => .ok (), fun _ => some (.ok ⟨true, some 0, bytes, []⟩), []⟩

/-- Valid bytes that are more than characters of a single byte come back from the content. -/
theorem buffers_decoded_valid :
    let document : Document := ⟨some ⟨"/w/a.py"⟩, "a", "python", none⟩
    let workspace := plainWorkspace [document]
    let run := (formatDocument workspace document true).run (printing [0x63, 0xC3, 0xA9]).host []
    (printing [0x63, 0xC3, 0xA9]).host.Hears ∧ HandsOver workspace run.trace ∧
      run.trace.filterMap Event.replacement? = [⟨some ⟨"/w/a.py"⟩, "cé"⟩] ∧
      Text.encode "cé" = [0x63, 0xC3, 0xA9] := by
  intro document workspace run
  have hears := (printing [0x63, 0xC3, 0xA9]).host_responsive.hears
  exact ⟨hears, (buffers_decoded hears workspace []).1 document true, by decide +kernel,
    by decide +kernel⟩

/-- An output that is no text is written over the source in altered form, and reported as a
success. -/
theorem formatDocument_alters :
    let document : Document := ⟨some ⟨"/w/a.py"⟩, "a", "python", none⟩
    let workspace := plainWorkspace [document]
    let run := (formatDocument workspace document true).run (printing [0x63, 0xE9, 0x0A]).host []
    run.value = some (.succeeded "Successfully formatted \"a.py\"") ∧
      run.trace.filterMap Event.replacement? = [⟨some ⟨"/w/a.py"⟩, "c\uFFFD\n"⟩] ∧
      Text.encode "c\uFFFD\n" ≠ [0x63, 0xE9, 0x0A] := by
  decide +kernel

end EditorBridge.Command
