import EditorBridge.Proofs.Command.Pool
import Mathlib.Data.List.Flatten

/-!
# Mixed ways of several documents

What a settled pool leaves, without the host that it ran under: the ways of its documents, mixed as
the schedule said, and the notifications of the collector between them.

## Main statements

`formatAll_mixes`: formatting all documents leaves such a mixture.

`Mixes.always`: what holds of every event on the ways of the documents holds of the mixture.

`Mixes.perm_reads`, `Mixes.reads_some`: what is read from a mixture is what is read from its ways,
up to order.
-/

namespace EditorBridge.Command

/-! ### The events of one turn -/

theorem mem_eventsOf {turn : Turn} {trace : List (Turn × Event)} {event : Event}
    (member : (turn, event) ∈ trace) : event ∈ eventsOf turn trace :=
  List.mem_map.mpr ⟨(turn, event), List.mem_filter.mpr ⟨member, decide_eq_true rfl⟩, rfl⟩

theorem eventsOf_append (turn : Turn) (front back : List (Turn × Event)) :
    eventsOf turn (front ++ back) = eventsOf turn front ++ eventsOf turn back := by
  simp [eventsOf]

theorem eventsOf_cons_same (turn : Turn) (event : Event) (trace : List (Turn × Event)) :
    eventsOf turn ((turn, event) :: trace) = event :: eventsOf turn trace := by
  simp [eventsOf]

/-- Where the events of one turn are cut, the trace can be cut too. -/
theorem exists_split_of_eventsOf {turn : Turn} {trace : List (Turn × Event)} {event : Event}
    {front back : List Event} (split : eventsOf turn trace = front ++ event :: back) :
    ∃ before after, trace = before ++ (turn, event) :: after ∧ eventsOf turn before = front := by
  obtain ⟨first, others, filtered, rfl, mapped⟩ := List.map_eq_append_iff.mp split
  obtain ⟨entry, rest, rfl, rfl, -⟩ := List.map_eq_cons_iff.mp mapped
  obtain ⟨before, remaining, rfl, rfl, kept⟩ := List.filter_eq_append_iff.mp filtered
  obtain ⟨gap, after, rfl, dropped, same, -⟩ := List.filter_eq_cons_iff.mp kept
  -- Between the two parts only entries of other turns can stand.
  have none : gap.filter (fun entry => entry.1 = turn) = [] := List.filter_eq_nil_iff.mpr dropped
  refine ⟨before ++ gap, after, ?_, ?_⟩
  · obtain rfl : entry.1 = turn := of_decide_eq_true same
    simp
  · rw [eventsOf_append, eventsOf, eventsOf, none, List.map_nil, List.append_nil]

/-! ### Mixtures -/

/-- A trace of formatting all documents: every worker went a way of its document, whatever the
others did in between, and the collector did nothing but notify. -/
structure Mixes (workspace : Workspace) (trace : List (Turn × Event)) : Prop where
  ways : ∀ index document, workspace.documents[index]? = some document →
    ∃ ending, (formatDocument workspace document true).Goes (eventsOf (.worker index) trace) ending
  reports : ∀ event ∈ eventsOf .collector trace,
    ∃ notification, event = ⟨.notify notification, some ()⟩
  owned : ∀ entry ∈ trace,
    entry.1 = .collector ∨ ∃ index < workspace.documents.length, entry.1 = .worker index

variable {σ : Type} {host : Host σ} {workspace : Workspace}

theorem Pool.Settled.mixes {pool : Pool σ} (settled : pool.Settled host workspace) :
    Mixes workspace pool.trace where
  ways := by
    intro index document found
    rw [← settled.documents, List.getElem?_map, Option.map_eq_some_iff] at found
    obtain ⟨worker, found, rfl⟩ := found
    exact ⟨_, settled.goes index worker found⟩
  reports := by
    intro event member
    rw [settled.reported] at member
    obtain ⟨worker, -, reported⟩ := List.mem_flatMap.mp member
    unfold Worker.collectorEvents panicReport at reported
    split at reported
    next => cases reported
    next => exact ⟨_, List.mem_singleton.mp reported⟩
  owned := by
    rw [← settled.documents, List.length_map]
    exact settled.owned

/-- Formatting all documents leaves a mixture of their ways. -/
theorem formatAll_mixes (hears : host.Hears) (schedule : List Turn) (workspace : Workspace)
    (state : σ) :
    ∃ trace, Mixes workspace trace ∧
      (formatAll host schedule workspace state).trace = trace.map (·.2) := by
  have started : (Pool.start workspace state).Sound host workspace := Pool.sound_start state
  have settled := Pool.settled_settle hears (Pool.sound_follow hears started schedule)
  exact ⟨_, settled.mixes, rfl⟩

namespace Mixes

variable {trace : List (Turn × Event)} {condition : Event → Prop}

/-- An event of a worker lies on the way of its document. -/
theorem way_of_mem (mixes : Mixes workspace trace) {index : Nat} {event : Event}
    (member : (.worker index, event) ∈ trace) :
    ∃ document ending, workspace.documents[index]? = some document ∧
      (formatDocument workspace document true).Goes (eventsOf (.worker index) trace) ending := by
  rcases mixes.owned _ member with absurd | ⟨other, inside, same⟩
  · cases absurd
  · obtain rfl := Turn.worker.inj same
    have found := List.getElem?_eq_getElem inside
    obtain ⟨ending, goes⟩ := mixes.ways index _ found
    exact ⟨_, ending, found, goes⟩

/-- What holds of every event on the ways of the documents, and of notifications, holds of every
event of a mixture. -/
theorem always (mixes : Mixes workspace trace)
    (works : ∀ document ∈ workspace.documents,
      (formatDocument workspace document true).Always condition)
    (tells : ∀ notification, condition ⟨.notify notification, some ()⟩) :
    ∀ event ∈ trace.map (·.2), condition event := by
  intro event member
  obtain ⟨⟨turn, event⟩, present, rfl⟩ := List.mem_map.mp member
  cases turn with
  | worker index =>
    obtain ⟨document, ending, found, goes⟩ := mixes.way_of_mem present
    exact works document (List.mem_of_getElem? found) _ ending goes event (mem_eventsOf present)
  | collector =>
    obtain ⟨notification, rfl⟩ := mixes.reports event (mem_eventsOf present)
    exact tells notification

/-- What is read from a mixture is what is read from each of the ways, up to order, when nothing is
read from notifications. -/
theorem perm_reads {α : Type} (mixes : Mixes workspace trace) (read : Event → Option α)
    (silent : ∀ notification, read ⟨.notify notification, some ()⟩ = none) :
    ((trace.map (·.2)).filterMap read).Perm
      ((List.range workspace.documents.length).flatMap fun index =>
        (eventsOf (.worker index) trace).filterMap read) := by
  have reported : (eventsOf .collector trace).filterMap read = [] := by
    refine List.filterMap_eq_nil_iff.mpr fun event member => ?_
    obtain ⟨notification, rfl⟩ := mixes.reports event member
    exact silent notification
  have turns := perm_turns read mixes.owned
  rw [reported, List.append_nil] at turns
  exact turns

/-- Where each way reads one thing of its document or nothing, a mixture reads these of some of the
documents, up to order. -/
theorem reads_some {α : Type} (mixes : Mixes workspace trace) {read : Event → Option α}
    {form : Document → α} (silent : ∀ notification, read ⟨.notify notification, some ()⟩ = none)
    (each : ∀ document events ending,
      (formatDocument workspace document true).Goes events ending →
        (events.filterMap read).Sublist [form document]) :
    ∃ chosen : List Document, chosen.Sublist workspace.documents ∧
      ((trace.map (·.2)).filterMap read).Perm (chosen.map form) := by
  have share : ∀ index ∈ List.range workspace.documents.length,
      ((eventsOf (.worker index) trace).filterMap read).Sublist
        (workspace.documents[index]?.map form).toList := by
    intro index inside
    have found := List.getElem?_eq_getElem (List.mem_range.mp inside)
    obtain ⟨ending, goes⟩ := mixes.ways index _ found
    rw [found]
    exact each _ _ ending goes
  have planned : ((List.range workspace.documents.length).flatMap fun index =>
      (workspace.documents[index]?.map form).toList) = workspace.documents.map form := by
    rw [List.map_eq_flatMap, List.flatMap_def, List.flatMap_def]
    congr 1
    refine List.ext_getElem (by simp) fun index _ inside => ?_
    rw [List.length_map] at inside
    simp [List.getElem?_eq_getElem inside]
  have some := List.Sublist.flatMap_right _ share
  rw [planned] at some
  obtain ⟨chosen, fewer, reads⟩ := List.sublist_map_iff.mp some
  exact ⟨chosen, fewer, reads ▸ mixes.perm_reads read silent⟩

end Mixes

end EditorBridge.Command
