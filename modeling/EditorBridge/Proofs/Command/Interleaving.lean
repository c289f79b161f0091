import EditorBridge.Proofs.Command.Cleaning
import EditorBridge.Proofs.Command.Pool

/-!
# Formatting all documents as each of them alone

Under a steady host the share of a worker in the trace is the trace of its document formatted alone,
in whatever state that run begins: both are ways of the same program with the same answers. The
schedule decides only how the shares are mixed.

## Main statements

`formatAll_asAlone`: whatever the schedule, the outcomes come in document order, each is that of the
document alone, and the trace consists of the traces of the documents alone and of one notification
for every document whose worker was ended.
-/

namespace EditorBridge.Command

variable {σ : Type} {host : Host σ} {workspace : Workspace}

/-! ### A document alone -/

/-- Formatting a document saves, runs the tool, replaces and notifies, and does nothing else. -/
theorem formatDocument_isFormatting (document : Document) (save : Bool) :
    (formatDocument workspace document save).Always (·.request.IsFormatting) := by
  -- Cleaning asks for the first three; the notification comes behind it.
  have work : (clean workspace document save).Always (·.request.IsFormatting) :=
    always_clean (fun _ _ => trivial) (fun _ _ => trivial) fun _ _ _ => trivial
  exact Program.always_bind work fun _ => Program.always_report fun _ _ => trivial

/-- A way of formatting a document that was answered by a steady host is the run under that host. -/
theorem goes_formatDocument_eq_run (steady : host.Steady) {document : Document} {save : Bool}
    {trace : List Event} {ending : Option Outcome}
    (goes : (formatDocument workspace document save).Goes trace ending)
    (gave : ∀ event ∈ trace, host.Gave event) (state : σ) :
    trace = ((formatDocument workspace document save).run host state).trace ∧
      ending = ((formatDocument workspace document save).run host state).value := by
  refine goes.eq_run host gave (fun event member => ?_) state
  exact steady.repeats event.request (formatDocument_isFormatting document save _ _ goes _ member)

/-- Under a steady host, what formatting a document can be ended by is a process that does not
answer. -/
theorem formatDocument_ended_iff (steady : host.Steady) (document : Document) (save : Bool)
    (state : σ) :
    ((formatDocument workspace document save).run host state).value = none ↔
      ∃ call, (⟨.run call, none⟩ : Event) ∈
        ((formatDocument workspace document save).run host state).trace := by
  constructor
  · exact Program.run_ended steady.responsive _ state
  · rintro ⟨call, member⟩
    exact ((formatDocument workspace document save).run_goes host state).ended_of_unanswered member

/-! ### All documents -/

/-- The result of formatting all documents, and the pool that it comes from, are those of
formatting each document alone. -/
structure AsAlone (workspace : Workspace) (alone : Document → Run σ Outcome) (pool : Pool σ)
    (result : Run σ (List Outcome)) : Prop where
  /-- One outcome for each document, in their order. -/
  value : result.value = some (workspace.documents.map fun document =>
    (alone document).value.getD
      (.failed ("Formatting \"" ++ document.displayName ++ "\" panicked")))
  trace : result.trace = pool.trace.map (·.2)
  /-- Each worker made the requests of its document alone, in the same order. -/
  worker : ∀ index document, workspace.documents[index]? = some document →
    eventsOf (.worker index) pool.trace = (alone document).trace
  collector : eventsOf .collector pool.trace =
    workspace.documents.flatMap fun document => panicReport document (alone document).value
  /-- No event is lost, made twice or caused by another document. -/
  perm : result.trace.Perm (workspace.documents.flatMap fun document =>
    (alone document).trace ++ panicReport document (alone document).value)
  /-- An outcome is missing only for want of an answer to the call. -/
  panics : ∀ document, (alone document).value = none ↔
    ∃ call, (⟨.run call, none⟩ : Event) ∈ (alone document).trace
  /-- A panicked document has one notification, an error, and no replacement. -/
  panicked : ∀ document, (alone document).value = none →
    ((alone document).trace ++ panicReport document (alone document).value).filterMap
        Event.notification? =
      [⟨.error, "Formatting \"" ++ document.displayName ++ "\" panicked"⟩] ∧
    ((alone document).trace ++ panicReport document (alone document).value).filterMap
        Event.replacement? = []

/-- Whatever the order of the turns, formatting all documents at once is formatting each of them
alone, as long as the answers do not depend on what went before. -/
theorem formatAll_asAlone (steady : host.Steady) (workspace : Workspace) (schedule : List Turn)
    (state elsewhere : σ) :
    AsAlone workspace
      (fun document => (formatDocument workspace document true).run host elsewhere)
      (((Pool.start workspace state).follow host schedule).settle host)
      (formatAll host schedule workspace state) := by
  let alone := fun document => (formatDocument workspace document true).run host elsewhere
  have started : (Pool.start workspace state).Sound host workspace := Pool.sound_start state
  have followed := Pool.sound_follow steady.responsive.hears started schedule
  have settled := Pool.settled_settle steady.responsive.hears followed
  unfold formatAll
  generalize ((Pool.start workspace state).follow host schedule).settle host = pool at settled ⊢
  -- Each worker went the way that the host makes its document go alone.
  have share : ∀ index worker, pool.workers[index]? = some worker →
      eventsOf (.worker index) pool.trace = (alone worker.document).trace ∧
        worker.value? = (alone worker.document).value := by
    intro index worker found
    refine goes_formatDocument_eq_run steady (settled.goes index worker found) ?_ elsewhere
    intro event member
    exact settled.gave _ (mem_of_mem_eventsOf member)
  have value : ∀ worker ∈ pool.workers, worker.value? = (alone worker.document).value := by
    intro worker member
    obtain ⟨index, found⟩ := List.mem_iff_getElem?.mp member
    exact (share index worker found).2
  have reports : ∀ worker ∈ pool.workers,
      worker.collectorEvents = panicReport worker.document (alone worker.document).value := by
    intro worker member
    rw [Worker.collectorEvents, value worker member]
  exact
    { value := by
        simp only [settled.collected, ← settled.documents, List.map_map]
        exact congrArg some (List.map_congr_left fun worker member => by
          rw [value worker member]
          rfl)
      trace := rfl
      worker := by
        intro index document found
        rw [← settled.documents, List.getElem?_map, Option.map_eq_some_iff] at found
        obtain ⟨worker, found, rfl⟩ := found
        exact (share index worker found).1
      collector := by
        rw [settled.reported, ← settled.documents, List.flatMap_map]
        exact List.flatMap_congr reports
      perm := by
        -- Reading every event of a share is reading the share.
        have shares := settled.perm_shares some (fun worker => (alone worker.document).trace)
          fun index worker found => by rw [List.filterMap_some, (share index worker found).1]
        simp only [List.filterMap_some] at shares
        rw [← settled.documents, List.flatMap_map]
        exact shares.trans (.of_eq (List.flatMap_congr fun worker member => by
          rw [reports worker member]))
      panics := fun document => formatDocument_ended_iff steady document true elsewhere
      panicked := by
        intro document ended
        obtain ⟨unchanged, silent⟩ := formatDocument_ended steady.responsive.hears ended
        simp only [ended, List.filterMap_append, unchanged, silent]
        exact ⟨rfl, rfl⟩ }

/-- The same file twice, an untitled buffer, and a file whose formatting is ended. -/
theorem formatAll_asAlone_mixed :
    let file (path : String) : Document := ⟨some ⟨path⟩, "a = 1", "python", none⟩
    let workspace := plainWorkspace
      [file "/w/a.py", file "/w/b.py", ⟨none, "b = 2", "python", none⟩, file "/w/a.py"]
    let script : Script :=
      ⟨fun _ => .ok (), fun _ _ => .ok (),
        Rule.answer? [⟨"/w/b.py", .crash⟩, ⟨"b = 2", .refuse "no such file"⟩], []⟩
    let schedule : List Turn :=
      [.worker 1, .worker 3, .worker 0, .collector, .worker 1, .worker 3, .worker 9]
    script.host.Steady ∧
      AsAlone workspace
        (fun document => (formatDocument workspace document true).run script.host [])
        (((Pool.start workspace []).follow script.host schedule).settle script.host)
        (formatAll script.host schedule workspace []) ∧
      (formatAll script.host schedule workspace []).value =
        some [.succeeded "Successfully formatted \"a.py\"", .failed "Formatting \"b.py\" panicked",
          .failed "no such file", .succeeded "Successfully formatted \"a.py\""] := by
  intro file workspace script schedule
  exact ⟨script.host_steady,
    formatAll_asAlone script.host_steady workspace schedule [] [], by decide +kernel⟩

end EditorBridge.Command
