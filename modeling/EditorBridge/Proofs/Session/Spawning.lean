import EditorBridge.Proofs.Command.Spawning
import EditorBridge.Proofs.Path.Directory
import EditorBridge.Proofs.Session.Surroundings
import EditorBridge.Proofs.Tool.Lookup

/-!
# The processes of a session

What a command calls is decided by the interpreter setting in force, by the module name that was
read when the session started, and by the purposes that the command has. Nothing is called twice,
and without an interpreter nothing is done but to notify.

## Main statements

`commands_spawn`: along every history, and in all surroundings in which only processes fail to
answer, the commands keep to these rules.
-/

namespace EditorBridge

open Command (Purpose)

/-! ### What a command may call -/

namespace Action

/-- What an action may start processes for, in this order. -/
def purposes (documents : List Document) : Action → List Purpose
  | .format => documents.head?.toList.map .clean
  | .formatAll _ => documents.map .clean
  | .saved document => [.clean document]
  | .openOverview target => [.overview (Command.overviewSource target)]
  | .provide uri =>
    match OverviewUri.parse uri with
    | .ok uri => [.overview uri.source]
    | .error _ => []
  | .render source => [.overview source]
  | .ensureInstalled => [.probe, .install]
  | .install => [.install]
  | .activate | .invoke .. | .probe _ | .installTool _ => []

/-- How many processes an action can start at most. -/
def mostCalls (documents : List Document) : Action → Nat
  | .formatAll _ => documents.length
  | .ensureInstalled => 2
  | _ => 1

theorem length_purposes_le (documents : List Document) (action : Action) :
    (action.purposes documents).length ≤ action.mostCalls documents := by
  cases action with
  | format => cases documents <;> simp [purposes, mostCalls]
  | formatAll schedule => simp [purposes, mostCalls]
  | provide uri => simp only [purposes, mostCalls]; split <;> simp
  | activate | saved | openOverview | render | ensureInstalled | install | invoke | probe
  | installTool => simp [purposes, mostCalls]

variable {workspace : Workspace} {action : Action} {trace : List Event}

theorem exists_served {α : Type} {program : Program α} {interpreter : Path}
    {purposes : List Purpose} {ending : Option α}
    (spawns : program.Spawns (purposes.map (Purpose.call workspace interpreter)))
    (goes : program.Goes trace ending) :
    ∃ served : List Purpose, served.Sublist purposes ∧
      (trace.filterMap Event.call?).Perm (served.map (Purpose.call workspace interpreter)) := by
  obtain ⟨served, some, same⟩ := List.sublist_map_iff.mp (spawns trace ending goes)
  exact ⟨served, some, .of_eq same⟩

/-- With an interpreter, the calls of a command serve purposes of it, each at most once. -/
theorem Leaves.served (leaves : action.Leaves workspace trace) (command : action.IsCommand)
    {interpreter : Path} (resolved : workspace.config.interpreter? = some interpreter) :
    ∃ served : List Purpose, served.Sublist (action.purposes workspace.documents) ∧
      (trace.filterMap Event.call?).Perm (served.map (Purpose.call workspace interpreter)) := by
  -- One program each, apart from the documents that are formatted all at once.
  cases leaves with
  | format goes =>
    refine exists_served ?_ goes
    rw [purposes, List.map_map]
    exact Command.format_spawns resolved
  | formatAll mixes =>
    obtain ⟨cleaned, some, calls⟩ := mixes.spawns resolved
    refine ⟨cleaned.map Purpose.clean, some.map Purpose.clean, ?_⟩
    rw [List.map_map]
    exact calls
  | @saved document _ _ goes =>
    exact exists_served (Command.formatSaved_spawns resolved document) goes
  | @openOverview target _ _ goes =>
    exact exists_served (Command.openOverview_spawns resolved target) goes
  | @provide uri _ _ goes =>
    refine exists_served ?_ goes
    simp only [Command.provide, purposes]
    cases OverviewUri.parse uri with
    | error error => exact Program.spawns_done _
    | ok uri => exact Command.render_spawns resolved uri.source
  | @render source _ _ goes => exact exists_served (Command.render_spawns resolved source) goes
  | ensureInstalled goes => exact exists_served (Command.ensureInstalled_spawns resolved) goes
  | install goes => exact exists_served (Command.install_spawns resolved) goes
  | activate | invoke | probe | installTool => cases command

/-- Without an interpreter a command does nothing but notify. -/
theorem Leaves.unresolved (leaves : action.Leaves workspace trace) (command : action.IsCommand)
    (missing : workspace.config.interpreter? = none) : ∀ event ∈ trace, event.IsNotice :=
  leaves.always command
    (fun _ => Command.formatDocument_unresolved missing)
    (Command.render_unresolved missing)
    (fun _ => Command.ensureInstalled_unresolved missing)
    (fun _ => Command.install_unresolved missing)
    (fun notification _ => ⟨notification, rfl⟩)

end Action

/-! ### Rules for processes -/

/-- The process serves the purpose, with this module name of the tool and this configuration. -/
structure Call.Serves (tool : String) (config : Config) (purpose : Purpose) (call : Call) :
    Prop where
  /-- The program is the interpreter setting without the blanks around it. -/
  program : ∃ text, config .interpreterPath = some (.text text) ∧
    call.program.text = Text.trimString text ∧ call.program.text ≠ ""
  arguments : call.arguments = purpose.arguments tool config
  /-- The directory is the parent of a file that is given from the root. -/
  parent : ∀ directory, call.directory = some directory →
    ∃ file, purpose.file? = some file ∧ file.IsBelowRoot ∧ directory.IsParent file
  /-- There is no directory when there is no file, or it is the root or given from elsewhere. -/
  nowhere : call.directory = none ↔ ∀ file, purpose.file? = some file → ¬ file.IsBelowRoot

theorem Command.Purpose.serves {workspace : Workspace} {interpreter : Path}
    (resolved : workspace.config.interpreter? = some interpreter) (purpose : Purpose) :
    (purpose.call workspace interpreter).Serves workspace.tool workspace.config purpose where
  program := (Config.interpreter?_eq_some_iff ..).mp resolved
  arguments := rfl
  parent directory found := by
    obtain ⟨file, works, found⟩ := Option.bind_eq_some_iff.mp found
    refine ⟨file, works, ?_, Path.components_of_directory? found⟩
    by_contra outside
    rw [(Path.directory?_eq_none_iff file).mpr outside] at found
    cases found
  nowhere := by
    simp only [Purpose.call, Option.bind_eq_none_iff, Path.directory?_eq_none_iff]

/-- The processes of an action, with this module name of the tool and this configuration. -/
structure Action.Spawns (action : Action) (tool : String) (config : Config)
    (documents : List Document) (trace : List Event) : Prop where
  /-- Every call serves a purpose of the action, and no purpose is served twice. -/
  calls : ∃ served : List Purpose, served.Sublist (action.purposes documents) ∧
    ∃ calls, List.Forall₂ (Call.Serves tool config) served calls ∧
      (trace.filterMap Event.call?).Perm calls
  most : (trace.filterMap Event.call?).length ≤ action.mostCalls documents
  /-- Without an interpreter nothing is called, saved, replaced or asked. -/
  unset : (∀ text, config .interpreterPath = some (.text text) →
    Text.isAllBlank text.toList = true) → ∀ event ∈ trace, event.IsNotice

theorem Entry.Possible.spawns {entry : Entry} (possible : entry.Possible)
    (command : entry.action.IsCommand) :
    entry.action.Spawns entry.workspace.tool entry.workspace.config entry.workspace.documents
      entry.trace := by
  have unresolved := possible.leaves.unresolved command
  have missing := Config.interpreter?_eq_none_iff entry.workspace.config
  -- Without an interpreter no purpose is served; with one the calls were counted before.
  cases found : entry.workspace.config.interpreter? with
  | none =>
    have silent : entry.trace.filterMap Event.call? = [] :=
      List.filterMap_eq_nil_iff.mpr fun event member =>
        (unresolved found event member).call?_eq_none
    exact
      { calls := ⟨[], List.nil_sublist _, [], .nil, .of_eq silent⟩
        most := by simp [silent]
        unset := fun unset => unresolved (missing.mpr unset) }
  | some interpreter =>
    obtain ⟨served, some, calls⟩ := possible.leaves.served command found
    exact
      { calls := by
          refine ⟨served, some, _, ?_, calls⟩
          exact List.forall₂_map_right_iff.mpr
            (List.forall₂_same.mpr fun purpose _ => purpose.serves found)
        most := by
          rw [calls.length_eq, List.length_map]
          exact Nat.le_trans some.length_le (entry.action.length_purposes_le _)
        unset := fun unset => unresolved (missing.mpr unset) }

/-- Every call of a command serves a purpose. -/
theorem Entry.Possible.exists_purpose {entry : Entry} (possible : entry.Possible)
    (command : entry.action.IsCommand) {call : Call}
    (member : call ∈ entry.trace.filterMap Event.call?) :
    ∃ purpose, call.Serves entry.workspace.tool entry.workspace.config purpose := by
  obtain ⟨served, -, calls, serves, same⟩ := (possible.spawns command).calls
  obtain ⟨index, inside, rfl⟩ := List.getElem_of_mem (same.mem_iff.mp member)
  exact ⟨_, (List.forall₂_iff_get.mp serves).2 index (serves.length_eq ▸ inside) inside⟩

/-! ### Main theorem -/

/-- Along every history that starts with some configuration, and for whatever configuration is in
force later, commands start processes for their purposes only: with the interpreter in force, with
the module name that was read at the start, in the directory of the file they work on, and never
twice for the same purpose. -/
theorem commands_spawn :
    (∀ (config : Config) (documents : List Document) (script : Script) (steps : List Step),
      ∀ deed ∈ (Session.start config documents script).deeds steps, deed.action.IsCommand →
        deed.action.Spawns config.toolModule deed.before.workspace.config
          deed.before.workspace.documents deed.run.trace) ∧
    ∀ entry : Entry, entry.Possible → entry.action.IsCommand →
      entry.action.Spawns entry.workspace.tool entry.workspace.config entry.workspace.documents
        entry.trace := by
  refine ⟨fun config documents script steps deed member command => ?_, fun entry possible =>
    possible.spawns⟩
  have spawns := (Session.possible_of_mem_deeds member).spawns command
  have tool : deed.before.workspace.tool = config.toolModule := Session.tool_of_mem_deeds member
  rw [← tool]
  exact spawns

/-- A history in which interpreter and module name are changed, and the interpreter taken away. -/
theorem commands_spawn_configured :
    let text (interpreter tool : String) : Config
      | .interpreterPath => some (.text interpreter)
      | .toolModule => some (.text tool)
      | _ => none
    let script : Script :=
      ⟨fun _ => .ok (), fun _ _ => .ok (), fun _ => some (.error "gone"), [.ok true]⟩
    let document : Document := ⟨some ⟨"/w//a.py"⟩, "a", "python", none⟩
    let steps : List Step :=
      [.act .ensureInstalled, .configure (text "/opt/python" "other"), .act .format,
        .act (.render ⟨"b.py"⟩), .configure (text " " "other"), .act .install]
    let session := Session.start (text " python " " miko ") [document] script
    (∀ deed ∈ session.deeds steps, deed.action.IsCommand →
      deed.action.Spawns "miko" deed.before.workspace.config deed.before.workspace.documents
        deed.run.trace) ∧
      (session.deeds steps).map (·.run.trace.filterMap Event.call?) =
        [[⟨⟨"python"⟩, ["-m", "miko", "--version"], none⟩,
            ⟨⟨"python"⟩, ["-m", "pip", "install", "--upgrade", "miko"], none⟩],
          [⟨⟨"/opt/python"⟩,
            ["-m", "miko", "clean", "/w//a.py", "--indent", "4", "--flag-prefix", "!"],
            some ⟨"/w"⟩⟩],
          [⟨⟨"/opt/python"⟩, ["-m", "miko", "overview", "b.py"], none⟩], []] := by
  intro text script document steps session
  have tool : (text " python " " miko ").toolModule = "miko" := by decide +kernel
  refine ⟨?_, by decide +kernel⟩
  rw [← tool]
  exact commands_spawn.1 (text " python " " miko ") _ script steps

end EditorBridge
