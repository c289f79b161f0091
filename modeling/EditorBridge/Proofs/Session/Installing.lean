import EditorBridge.Proofs.Command.Consent
import EditorBridge.Proofs.Command.Requests
import EditorBridge.Proofs.Session.Spawning

/-!
# No installation without consent

The package manager is started for two reasons only: the user asked for the installation, or was
asked and agreed. Counted over a whole history, its runs are the installations asked for and the
questions answered with yes.

## Main statements

`installs_consented`: checking the tool keeps to its traces, and along every history of commands the
count is exact.
-/

namespace EditorBridge

/-- The process has the package manager install something. -/
def Call.installs (call : Call) : Bool := ["-m", "pip", "install"].isPrefixOf call.arguments

namespace Event

/-- An installation was started. -/
def installs (event : Event) : Bool := event.call?.any Call.installs

/-- The user answered a question with yes. -/
def agrees : Event → Bool
  | ⟨.confirm _, some (.ok true)⟩ => true
  | _ => false

/-- Nothing was installed, and the user was not asked. -/
def Unconcerned (event : Event) : Prop := event.installs = false ∧ event.question? = none

theorem agrees_eq_false_of_unasked {event : Event} (unasked : event.question? = none) :
    event.agrees = false := by
  obtain ⟨request, answer⟩ := event
  cases request with
  | confirm question => cases unasked
  | save | run | replace | notify | registerCommand | registerScheme => rfl

end Event

/-! ### The events of one command -/

namespace Command

theorem unconcerned_notify (notification : Notification) (answer : Option Unit) :
    Event.Unconcerned ⟨.notify notification, answer⟩ := ⟨rfl, rfl⟩

/-- The arguments behind the module name tell the subcommands from an installation, even when the
tool is called like the package manager. -/
theorem unconcerned_run {invocation : Invocation} {subcommand : String}
    (other : invocation.arguments.head? = some subcommand) (differs : subcommand ≠ "install")
    (answer : Option (Except String Output)) :
    Event.Unconcerned ⟨.run invocation.call, answer⟩ := by
  refine ⟨?_, rfl⟩
  obtain ⟨rest, arguments⟩ := List.head?_eq_some_iff.mp other
  simp only [Event.installs, Event.call?, Call.installs, Invocation.call, Invocation.argv,
    arguments, Option.any_some, List.isPrefixOf, Bool.and_true, Bool.and_eq_false_iff,
    beq_eq_false_iff_ne]
  exact .inr (.inr differs.symm)

theorem formatDocument_unconcerned (workspace : Workspace) (document : Document) (save : Bool) :
    (formatDocument workspace document save).Always Event.Unconcerned :=
  always_formatDocument (fun _ _ => ⟨rfl, rfl⟩) (fun _ _ => unconcerned_run rfl (by decide) _)
    (fun _ _ _ => ⟨rfl, rfl⟩) unconcerned_notify

theorem render_unconcerned (workspace : Workspace) (source : Path) :
    (render workspace source).Always Event.Unconcerned :=
  always_render fun _ _ => unconcerned_run rfl (by decide) _

/-- Installing on request is one run of the package manager, and no question. -/
theorem goes_install {workspace : Workspace} {trace : List Event} {ending : Option Outcome}
    (goes : (install workspace).Goes trace ending) :
    (workspace.config.interpreter? = none ∧ ∀ event ∈ trace, event.Unconcerned) ∨
      ∃ interpreter answer notices, workspace.config.interpreter? = some interpreter ∧
        trace = ⟨.run (Invocation.install interpreter workspace.tool).call, answer⟩ :: notices ∧
        ∀ event ∈ notices, event.Unconcerned := by
  unfold install at goes
  split at goes
  next missing => exact .inl ⟨missing, Program.always_report unconcerned_notify trace ending goes⟩
  next interpreter resolved =>
    rcases (Program.goes_invoke_bind ..).mp goes with ⟨answer, last, rfl, reports⟩ | ⟨rfl, -⟩
    · exact .inr ⟨interpreter, some answer, last, resolved, rfl,
        Program.always_report unconcerned_notify last ending reports⟩
    · exact .inr ⟨interpreter, none, [], resolved, rfl, List.forall_mem_nil _⟩

/-- A yes is followed by one installation, and nothing else is. -/
theorem Checks.count {workspace : Workspace} {trace : List Event} {ending : Option Outcome}
    (checks : Checks workspace trace ending) :
    trace.countP Event.installs = trace.countP Event.agrees := by
  have probe : ∀ interpreter answer,
      Event.installs ⟨.run (Invocation.probe interpreter workspace.tool).call, answer⟩ = false :=
    fun _ answer => (unconcerned_run rfl (by decide) answer).1
  have together : ∀ {interpreter question front} {back : List Event},
      Asked workspace interpreter question front →
      back.countP Event.installs = back.countP Event.agrees →
      (front ++ back).countP Event.installs = (front ++ back).countP Event.agrees := by
    rintro interpreter question front back ⟨-, answer, -, -, rfl⟩ same
    rw [List.countP_append, List.countP_append, same]
    simp [probe, Event.agrees]
  cases checks with
  | unset => rfl
  | unprobed => simp [probe, Event.agrees]
  | @installed interpreter answer =>
    rw [List.countP_cons, probe interpreter (some answer)]
    rfl
  | declined asked => exact together asked rfl
  | unasked asked => exact together asked rfl
  | agreed asked => exact together asked rfl
  | uninstalled asked => exact together asked rfl

/-- Only an installation has the arguments of one. -/
theorem Purpose.eq_install_of_installs {tool : String} {config : Config} {purpose : Purpose}
    (installs : ["-m", "pip", "install"].isPrefixOf (purpose.arguments tool config) = true) :
    purpose = .install := by
  cases purpose with
  | install => rfl
  | clean | overview | probe =>
    simp [Purpose.arguments, cleanArguments, overviewArguments, List.isPrefixOf] at installs

end Command

/-! ### The entries of a history -/

/-- The installation was asked for outright, and there was an interpreter to run it. -/
def Entry.installsOutright (entry : Entry) : Bool :=
  decide (entry.action = .install) && entry.workspace.config.interpreter?.isSome

/-- What an action did was asked for, or agreed to. -/
structure Entry.Consented (entry : Entry) : Prop where
  count : entry.trace.countP Event.installs =
    entry.installsOutright.toNat + entry.trace.countP Event.agrees
  /-- An installation is that of the tool. -/
  upgrades : ∀ call ∈ entry.trace.filterMap Event.call?, call.installs = true →
    call.arguments = ["-m", "pip", "install", "--upgrade", entry.workspace.tool]
  uninvolved : entry.action ≠ .install → entry.action ≠ .ensureInstalled →
    ∀ event ∈ entry.trace, event.installs = false
  unasked : entry.action ≠ .ensureInstalled → ∀ event ∈ entry.trace, event.question? = none

theorem count_of_unconcerned {trace : List Event}
    (unconcerned : ∀ event ∈ trace, event.Unconcerned) :
    trace.countP Event.installs = 0 ∧ trace.countP Event.agrees = 0 := by
  constructor
  · exact List.countP_eq_zero.mpr fun event member => by simp [(unconcerned event member).1]
  · exact List.countP_eq_zero.mpr fun event member => by
      simp [Event.agrees_eq_false_of_unasked (unconcerned event member).2]

namespace Entry.Possible

variable {entry : Entry}

theorem unconcerned (possible : entry.Possible) (command : entry.action.IsCommand)
    (notInstall : entry.action ≠ .install) (notCheck : entry.action ≠ .ensureInstalled) :
    ∀ event ∈ entry.trace, event.Unconcerned :=
  possible.leaves.always command
    (fun _ => Command.formatDocument_unconcerned entry.workspace)
    (Command.render_unconcerned entry.workspace)
    (fun check => absurd check notCheck)
    (fun install => absurd install notInstall)
    Command.unconcerned_notify

theorem checks (possible : entry.Possible) (check : entry.action = .ensureInstalled) :
    ∃ ending, Command.Checks entry.workspace entry.trace ending := by
  obtain ⟨σ, host, state, responsive, same⟩ := possible
  rw [check] at same
  rw [same]
  exact ⟨_, Command.ensureInstalled_checks responsive entry.workspace state⟩

theorem upgrades (possible : entry.Possible) (command : entry.action.IsCommand) :
    ∀ call ∈ entry.trace.filterMap Event.call?, call.installs = true →
      call.arguments = ["-m", "pip", "install", "--upgrade", entry.workspace.tool] := by
  intro call member installs
  obtain ⟨purpose, serves⟩ := possible.exists_purpose command member
  rw [Call.installs, serves.arguments] at installs
  rw [serves.arguments, Command.Purpose.eq_install_of_installs installs]
  rfl

theorem consented (possible : entry.Possible) (command : entry.action.IsCommand) :
    entry.Consented := by
  have upgrades := possible.upgrades command
  -- Checking installs on a yes, installing does so outright, and all others do not at all.
  by_cases check : entry.action = .ensureInstalled
  · obtain ⟨ending, checks⟩ := possible.checks check
    exact
      { count := by simp [installsOutright, check, checks.count]
        upgrades := upgrades
        uninvolved := fun _ notCheck => absurd check notCheck
        unasked := fun notCheck => absurd check notCheck }
  by_cases install : entry.action = .install
  · have leaves := possible.leaves
    rw [install] at leaves
    cases leaves with
    | install goes =>
      rcases Command.goes_install goes with
        ⟨missing, unconcerned⟩ | ⟨interpreter, answer, notices, resolved, left, unconcerned⟩
      · obtain ⟨started, agreed⟩ := count_of_unconcerned unconcerned
        exact
          { count := by simp [installsOutright, missing, started, agreed]
            upgrades := upgrades
            uninvolved := fun notInstall => absurd install notInstall
            unasked := fun _ event member => (unconcerned event member).2 }
      · obtain ⟨started, agreed⟩ := count_of_unconcerned unconcerned
        exact
          { count := by
              have outright : entry.installsOutright = true := by
                simp [installsOutright, install, resolved]
              rw [outright, left, List.countP_cons, List.countP_cons, started, agreed]
              rfl
            upgrades := upgrades
            uninvolved := fun notInstall => absurd install notInstall
            unasked := by
              rw [left]
              rintro - event (_ | ⟨_, member⟩)
              · rfl
              · exact (unconcerned event member).2 }
  · have unconcerned := possible.unconcerned command install check
    obtain ⟨started, agreed⟩ := count_of_unconcerned unconcerned
    exact
      { count := by simp [installsOutright, install, started, agreed]
        upgrades := upgrades
        uninvolved := fun _ _ event member => (unconcerned event member).1
        unasked := fun _ event member => (unconcerned event member).2 }

end Entry.Possible

/-! ### Main theorem -/

/-- Over all entries there are as many installations as were asked for outright or agreed to. -/
structure Consented (entries : List Entry) : Prop where
  count : (entries.flatMap Entry.trace).countP Event.installs =
    entries.countP Entry.installsOutright + (entries.flatMap Entry.trace).countP Event.agrees
  each : ∀ entry ∈ entries, entry.Consented

theorem consented_of_each {entries : List Entry} (each : ∀ entry ∈ entries, entry.Consented) :
    Consented entries := by
  refine ⟨?_, each⟩
  induction entries with
  | nil => rfl
  | cons entry entries ih =>
    have first := (each entry List.mem_cons_self).count
    have rest := ih fun other member => each other (List.mem_cons_of_mem entry member)
    have outright : entry.installsOutright.toNat = if entry.installsOutright then 1 else 0 := by
      cases entry.installsOutright <;> rfl
    rw [List.flatMap_cons, List.countP_append, List.countP_append, List.countP_cons, first, rest,
      outright]
    omega

/-- Checking the tool probes it first, asks once when it is missing or too old, and installs it on a
yes only. Along every history of commands the package manager is run as often as an installation was
asked for with an interpreter set, or a question was answered with yes. -/
theorem installs_consented :
    (∀ (σ : Type) (host : Host σ), host.Responsive → ∀ (workspace : Workspace) (state : σ),
      let run := (Command.ensureInstalled workspace).run host state
      Command.Checks workspace run.trace run.value) ∧
    (∀ (session : Session) (steps : List Step),
      (∀ action, .act action ∈ steps → action.IsCommand) →
        Consented ((session.deeds steps).map Deed.entry)) ∧
    ∀ entries : List Entry,
      (∀ entry ∈ entries, entry.Possible ∧ entry.action.IsCommand) → Consented entries := by
  have all : ∀ entries : List Entry,
      (∀ entry ∈ entries, entry.Possible ∧ entry.action.IsCommand) → Consented entries :=
    fun entries commands => consented_of_each fun entry member =>
      (commands entry member).1.consented (commands entry member).2
  refine ⟨fun σ host responsive => Command.ensureInstalled_checks responsive,
    fun session steps commands => all _ fun entry member => ?_, all⟩
  obtain ⟨deed, present, rfl⟩ := List.mem_map.mp member
  exact ⟨Session.possible_of_mem_deeds present,
    commands deed.action (Session.act_mem_of_mem_deeds present)⟩

/-- A tool that is missing at first, a no, a failing prompt and a yes, and installations asked for
with and without an interpreter. -/
theorem installs_consented_answers :
    let interpreter : Config
      | .interpreterPath => some (.text "python")
      | _ => none
    let script : Script :=
      ⟨fun _ => .ok (), fun _ _ => .ok (), fun _ => some (.error "gone"),
        [.ok false, .error (.prompt "closed"), .ok true]⟩
    let session := Session.start interpreter [⟨none, "a", "python", none⟩] script
    let steps : List Step :=
      [.act .ensureInstalled, .act .format, .act .ensureInstalled, .act .ensureInstalled,
        .act .install, .configure fun _ => none, .act .install, .act .ensureInstalled]
    let workspace := session.workspace
    let run := (Command.ensureInstalled workspace).run script.host []
    script.host.Responsive ∧ Command.Checks workspace run.trace run.value ∧
      Consented ((session.deeds steps).map Deed.entry) ∧
      (((session.deeds steps).map Deed.entry).flatMap Entry.trace).countP Event.installs = 2 := by
  intro interpreter script session steps workspace run
  have responsive := script.host_responsive
  refine ⟨responsive, installs_consented.1 _ script.host responsive workspace [],
    installs_consented.2.1 session steps ?_, by decide +kernel⟩
  intro action member
  simp only [steps, List.mem_cons, Step.act.injEq, reduceCtorEq, List.not_mem_nil, false_or,
    or_false] at member
  rcases member with rfl | rfl | rfl | rfl | rfl | rfl | rfl <;> trivial

end EditorBridge
