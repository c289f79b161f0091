import EditorBridge.Proofs.Command.Spawning
import Mathlib.Data.List.Basic

/-!
# What formatting replaces

The one replacement that formatting a document can make comes behind the process that printed its
content, and the process was not asked to write the file itself.

## Main statements

`goes_formatDocument_edits`: a way of formatting a document replaces nothing, or exactly this.

`Mixes.produced`, `Mixes.replaces_once`: the same of every replacement among those of several documents,
for which the process may lie further back.
-/

namespace EditorBridge

/-- The document whose replacing was asked for. -/
def Event.edited? : Event → Option Document
  | ⟨.replace document _, _⟩ => some document
  | _ => none

namespace Command

/-- The options that clean a document without writing its file. -/
def printingFlags : List String := ["--noself", "--safe", "--use-black"]

/-- The process has this tool clean the document, as it stands, and print the result. Behind the
target there is no option that names a file to write. -/
def Prints (tool : String) (document : Document) (call : Call) : Prop :=
  ∃ indent marker flags, flags.Sublist printingFlags ∧
    call.arguments =
      ["-m", tool, "clean", (Target.ofDocument document).argument, "--indent", indent,
        "--flag-prefix", marker] ++ flags

theorem enabledArgument_sublist (enabled : Bool) (argument : String) :
    (enabledArgument enabled argument).Sublist [argument] := by
  cases enabled
  · exact List.nil_sublist _
  · exact List.Sublist.refl _

variable {workspace : Workspace} {document : Document} {save : Bool}

theorem prints_cleaning (interpreter : Path) (spared : writesFile workspace document = false) :
    Prints workspace.tool document (cleaning workspace interpreter document).call := by
  have unwritten : (workspace.config.cleanOptions document).writtenFile? (.ofDocument document) =
      none := by
    rwa [writesFile, Option.isSome_eq_false_iff, Option.isNone_iff_eq_none] at spared
  let options := workspace.config.cleanOptions document
  refine ⟨Decimal.natText options.indent, options.flagPrefix,
    enabledArgument options.excludeSelf "--noself" ++ enabledArgument options.safe "--safe" ++
      enabledArgument options.useBlack "--use-black",
    ((enabledArgument_sublist _ _).append (enabledArgument_sublist _ _)).append
      (enabledArgument_sublist _ _), ?_⟩
  simp [cleaning, Invocation.call, Invocation.argv, cleanArguments, unwritten, options]

/-- The process printed what cleaning the document gives, and nothing was replaced before it. -/
structure Yields (workspace : Workspace) (document : Document) (front : List Event) (call : Call)
    (output : Output) : Prop where
  before : front.filterMap Event.replacement? = []
  prints : Prints workspace.tool document call
  success : output.success = true

theorem Cleans.edits {work : List Event} {outcome : Outcome}
    (cleans : Cleans workspace document save work outcome) :
    work.filterMap Event.replacement? = [] ∨
      ∃ front call output, Yields workspace document front call output ∧
        work = front ++ [⟨.run call, some (.ok output)⟩,
          ⟨.replace document (Text.decodeLossy output.stdout), some (.ok ())⟩] := by
  cases cleans with
  | unresolved => exact .inl rfl
  | unsaved => exact .inl rfl
  | uncleaned _ saved => exact .inl (by simp [saved.no_replacement, Event.replacement?])
  | kept _ saved => exact .inl (by simp [saved.no_replacement, Event.replacement?])
  | unreplaced _ saved => exact .inl (by simp [saved.no_replacement, Event.replacement?])
  | @replaced interpreter saves answer content resolved saved cleaned changed =>
    obtain ⟨output, rfl, success, rfl⟩ := Invocation.result_ok cleaned
    -- A document whose file the tool writes is kept.
    have spared : writesFile workspace document = false := by
      by_contra writes
      exact changed ((keeps_iff ..).mp (by simp [writes]))
    exact .inr ⟨saves, _, output,
      ⟨saved.no_replacement, prints_cleaning interpreter spared, success⟩, rfl⟩

/-- A way of formatting a document replaces nothing, or the document by what cleaning it printed,
and nothing else before or behind that. -/
theorem goes_formatDocument_edits {trace : List Event} {ending : Option Outcome}
    (goes : (formatDocument workspace document save).Goes trace ending) :
    trace.filterMap Event.replacement? = [] ∨
      ∃ front call output back, Yields workspace document front call output ∧
        back.filterMap Event.replacement? = [] ∧
        trace = (front ++ [⟨.run call, some (.ok output)⟩]) ++
          ⟨.replace document (Text.decodeLossy output.stdout), some (.ok ())⟩ :: back := by
  rcases (Program.goes_bind ..).mp goes with ⟨first, -⟩ | ⟨result, work, last, rfl, first, reports⟩
  · exact .inl (goes_clean_ended first)
  have quiet : (Program.report (.ofResult result)).Always (·.replacement? = none) :=
    Program.always_report fun _ _ => rfl
  have silent := List.filterMap_eq_nil_iff.mpr (quiet last ending reports)
  rcases (goes_clean first).edits with unchanged | ⟨front, call, output, yields, rfl⟩
  · exact .inl (by rw [List.filterMap_append, unchanged, silent, List.append_nil])
  · exact .inr ⟨front, call, output, last, yields, silent, by simp⟩

/-- Seen from the replacement, the process that printed its content is what came just before. -/
theorem goes_formatDocument_replaced {front back : List Event} {ending : Option Outcome}
    {replaced : Document} {content : String} {answer : Unit}
    (goes : (formatDocument workspace document save).Goes
      (front ++ ⟨.replace replaced content, some (.ok answer)⟩ :: back) ending) :
    ∃ earlier call output, Yields workspace document earlier call output ∧
      replaced = document ∧ content = Text.decodeLossy output.stdout ∧
      front = earlier ++ [⟨.run call, some (.ok output)⟩] := by
  rcases goes_formatDocument_edits goes with
    none | ⟨earlier, call, output, rest, yields, silent, trace⟩
  · simp [Event.replacement?] at none
  · -- The way has one replacement only, so both cuts are in the same place.
    have elsewhere : ∀ {events : List Event}, events.filterMap Event.replacement? = [] →
        (⟨.replace replaced content, some (.ok answer)⟩ : Event) ∉ events := by
      intro events unchanged member
      cases List.filterMap_eq_nil_iff.mp unchanged _ member
    have before : (earlier ++ [(⟨.run call, some (.ok output)⟩ : Event)]).filterMap
        Event.replacement? = [] := by
      rw [List.filterMap_append, yields.before]
      rfl
    obtain ⟨rfl, same, -⟩ :=
      (List.append_cons_inj_of_notMem (elsewhere before) (elsewhere silent)).mp trace.symm
    cases same
    exact ⟨earlier, call, output, yields, rfl, rfl, rfl⟩

/-- Before the replacement of a document a process that cleaned it printed the content, and the
document was not replaced by then. -/
def Produced (tool : String) (document : Document) (content : String) (before : List Event) :
    Prop :=
  ∃ earlier call output later,
    before = earlier ++ ⟨.run call, some (.ok output)⟩ :: later ∧
    Prints tool document call ∧ output.success = true ∧
    content = Text.decodeLossy output.stdout ∧
    ∀ replacement ∈ before.filterMap Event.replacement?, replacement.path ≠ document.path

theorem formatDocument_names (workspace : Workspace) (document : Document) (save : Bool) :
    (formatDocument workspace document save).Always fun event =>
      ∀ replacement, event.replacement? = some replacement → replacement.path = document.path := by
  refine Program.always_bind (always_clean (fun _ _ => nofun) (fun _ _ => nofun) ?_) fun _ =>
    Program.always_report fun _ _ => nofun
  rintro output - (_ | _ | _) replacement named
  · cases named
  · cases named
  · obtain rfl := Option.some.inj named
    rfl

section

variable {front back : List Event} {replaced : Document} {content : String} {answer : Unit}

theorem goes_formatDocument_produced {ending : Option Outcome}
    (goes : (formatDocument workspace document save).Goes
      (front ++ ⟨.replace replaced content, some (.ok answer)⟩ :: back) ending) :
    replaced = document ∧ Produced workspace.tool document content front := by
  obtain ⟨earlier, call, output, yields, rfl, rfl, rfl⟩ := goes_formatDocument_replaced goes
  refine ⟨rfl, earlier, call, output, [], rfl, yields.prints, yields.success, rfl, ?_⟩
  rw [List.filterMap_append, yields.before]
  exact List.forall_mem_nil _

/-- A replacement among the ways of several documents is made by the worker of its document. -/
theorem Mixes.worker_of_replacement {trace : List (Turn × Event)} (mixes : Mixes workspace trace)
    {turn : Turn} {event : Event} {replacement : Replacement} (member : (turn, event) ∈ trace)
    (replaces : event.replacement? = some replacement) :
    ∃ index document, turn = .worker index ∧ workspace.documents[index]? = some document ∧
      replacement.path = document.path := by
  cases turn with
  | collector =>
    obtain ⟨notification, rfl⟩ := mixes.reports event (mem_eventsOf member)
    cases replaces
  | worker index =>
    obtain ⟨document, ending, found, goes⟩ := mixes.way_of_mem member
    exact ⟨index, document, rfl, found, formatDocument_names workspace document true _ ending goes
      event (mem_eventsOf member) replacement replaces⟩

/-- Where the paths are distinct, a replacement among the ways of several documents gives one of
them what was printed for it. -/
theorem Mixes.produced {trace : List (Turn × Event)} (mixes : Mixes workspace trace)
    (distinct : (workspace.documents.map Document.path).Nodup)
    (split : trace.map (·.2) = front ++ ⟨.replace replaced content, some (.ok answer)⟩ :: back) :
    replaced ∈ workspace.documents ∧ Produced workspace.tool replaced content front := by
  obtain ⟨before, rest, rfl, rfl, mapped⟩ := List.map_eq_append_iff.mp split
  obtain ⟨⟨turn, event⟩, after, rfl, rfl, rfl⟩ := List.map_eq_cons_iff.mp mapped
  obtain ⟨index, document, rfl, found, -⟩ :=
    mixes.worker_of_replacement (List.mem_append_right before List.mem_cons_self) rfl
  -- In its worker's own way the process came just before; the mixture is cut there as well.
  obtain ⟨ending, goes⟩ := mixes.ways index document found
  rw [eventsOf_append, eventsOf_cons_same] at goes
  obtain ⟨earlier, call, output, yields, rfl, rfl, own⟩ := goes_formatDocument_replaced goes
  obtain ⟨sooner, later, rfl, -⟩ := exists_split_of_eventsOf own
  refine ⟨List.mem_of_getElem? found, sooner.map (·.2), call, output, later.map (·.2), by simp,
    yields.prints, yields.success, rfl, fun replacement member named => ?_⟩
  -- A replacement of the same document would be one of the same worker, which made none.
  obtain ⟨event, member, replaces⟩ := List.mem_filterMap.mp member
  obtain ⟨⟨turn, event⟩, among, rfl⟩ := List.mem_map.mp member
  obtain ⟨other, owner, rfl, place, path⟩ :=
    mixes.worker_of_replacement (List.mem_append_left _ among) replaces
  have inside : index < (workspace.documents.map Document.path).length := by
    rw [List.length_map]
    exact (List.getElem?_eq_some_iff.mp found).1
  obtain rfl : index = other := by
    refine (List.getElem?_inj inside distinct).mp ?_
    rw [List.getElem?_map, List.getElem?_map, found, place, Option.map_some, Option.map_some,
      ← path, named]
  have made := mem_eventsOf among
  rw [own] at made
  rcases List.mem_append.mp made with made | made
  · rw [List.filterMap_eq_nil_iff.mp yields.before event made] at replaces
    cases replaces
  · obtain rfl := List.mem_singleton.mp made
    cases replaces

/-- Formatting all documents replaces each of them at most once. -/
theorem Mixes.replaces_once {trace : List (Turn × Event)} (mixes : Mixes workspace trace) :
    ∃ chosen : List Document, chosen.Sublist workspace.documents ∧
      (((trace.map (·.2)).filterMap Event.replacement?).map Replacement.path).Perm
        (chosen.map Document.path) := by
  rw [List.map_filterMap]
  refine mixes.reads_some (fun _ => rfl) fun document events ending goes => ?_
  rw [← List.map_filterMap]
  rcases goes_formatDocument_edits goes with
    none | ⟨front, call, output, back, yields, silent, rfl⟩
  · simp [none]
  · rw [List.filterMap_append, List.filterMap_append, yields.before]
    change (document.path :: (back.filterMap Event.replacement?).map Replacement.path).Sublist _
    rw [silent]
    exact List.Sublist.refl _

end

end Command

end EditorBridge
