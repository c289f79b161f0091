import EditorBridge.Proofs.Program.Ways
import EditorBridge.Proofs.Shell.Lines
import EditorBridge.Command.Install
import EditorBridge.Settings

/-!
# Installing by hand

When an installation fails, its message ends in a command that the user is to run instead. The command
is written as text, and what a shell makes of the text is decided by the shell: it is the command that
was run when the interpreter and the tool are plain words, and otherwise it is not, since nothing in the
text is quoted.

## Main statements

`Command.goes_install_named`: an installation starts one process, and a failure names the command.

`Command.lineWords?_manualInstall_iff`: when the command is the one that was run.

`Command.manualInstall_repeats`: both, with what the reader of the shell makes of the command.
-/

namespace EditorBridge

open Shell

/-- The program of a process and its arguments, as a shell writes them. -/
def Call.words (call : Call) : List Raw := (call.program.text :: call.arguments).map Raw.ofString

namespace Invocation

theorem ofString_append (first second : String) :
    Raw.ofString (first ++ second) = Raw.ofString first ++ Raw.ofString second := by
  simp [Raw.ofString, Raw.ofBytes, Text.encode]

/-- The command for the user is the words of the call, with nothing but blanks between them. -/
theorem manualInstall_spaced (interpreter : Path) (tool : String) :
    Raw.ofString (manualInstall interpreter tool) =
      spaced (Raw.ofString interpreter.text) ((install interpreter tool).argv.map Raw.ofString) := by
  have between : Raw.ofString " -m pip install --upgrade " = ' ' :: (Raw.ofString "-m" ++
      ' ' :: (Raw.ofString "pip" ++ ' ' :: (Raw.ofString "install" ++
        ' ' :: (Raw.ofString "--upgrade" ++ [' '])))) := by
    decide +kernel
  rw [manualInstall, ofString_append, ofString_append, between]
  simp [spaced, argv, install]

end Invocation

namespace Command

variable {workspace : Workspace} {interpreter : Path}

/-- An installation starts one process. When it fails, its message ends in the command to run by hand. -/
theorem goes_install_named (resolved : workspace.config.interpreter? = some interpreter)
    {trace : List Event} {ending : Option Outcome} (goes : (install workspace).Goes trace ending) :
    trace.filterMap Event.call? = [(Invocation.install interpreter workspace.tool).call] ∧
      ∀ message, ending = some (.failed message) → ∃ front,
        message = front ++ "`" ++ Invocation.manualInstall interpreter workspace.tool ++ "`" := by
  unfold install at goes
  rw [resolved] at goes
  rcases (Program.goes_invoke_bind ..).mp goes with ⟨answer, rest, rfl, reports⟩ | ⟨rfl, rfl⟩
  · -- Behind the call there is only what the user is told.
    have silent : rest.filterMap Event.call? = [] := List.filterMap_eq_nil_iff.mpr
      ((Program.always_report fun _ _ => rfl) rest ending reports)
    refine ⟨congrArg (_ :: ·) silent, fun message ended => ?_⟩
    have same : installOutcome workspace interpreter
        ((Invocation.install interpreter workspace.tool).result answer) = .failed message := by
      rcases (Program.goes_report ..).mp reports with ⟨-, -, rfl⟩ | ⟨_, heard, -, -, rfl⟩
      · exact Option.some.inj ended
      · obtain ⟨_, -, same⟩ := Option.map_eq_some_iff.mp ended
        exact same
    cases result : (Invocation.install interpreter workspace.tool).result answer with
    | ok output =>
      rw [result] at same
      cases same
    | error failure =>
      rw [result] at same
      obtain rfl := Outcome.failed.inj same
      exact ⟨"Failed to install " ++ workspace.tool ++ ": " ++
        Text.trimEndString failure.message ++ "\nInstall it manually with ", by
          simp only [String.append_assoc]
          rfl⟩
  · exact ⟨rfl, nofun⟩

/-- The interpreter and the tool are plain words, and a command can start with the interpreter. -/
structure NeedsNoQuotes (interpreter : Path) (tool : String) : Prop where
  plainInterpreter : Plain (Raw.ofString interpreter.text)
  program : NamesProgram (Raw.ofString interpreter.text)
  plainTool : Plain (Raw.ofString tool)

/-- The command for the user is cut into the program and the arguments of the process exactly when these
need no quotes. -/
theorem lineWords?_manualInstall_iff (interpreter : Path) (tool : String) :
    lineWords? (Raw.ofString (Invocation.manualInstall interpreter tool)) =
        some (Invocation.install interpreter tool).call.words ↔
      NeedsNoQuotes interpreter tool := by
  -- Whatever the interpreter and the tool are, the words between them are plain.
  have between : ∀ one ∈ ["-m", "pip", "install", "--upgrade"].map Raw.ofString, Plain one := by
    decide +kernel
  rw [Invocation.manualInstall_spaced]
  refine (lineWords?_spaced_iff ..).trans ⟨fun ⟨plain, program⟩ => ?_, fun needs => ?_⟩
  · have last : Raw.ofString tool ∈ (Invocation.install interpreter tool).argv.map Raw.ofString := by
      simp [Invocation.argv, Invocation.install]
    exact ⟨plain _ List.mem_cons_self, program, plain _ (List.mem_cons_of_mem _ last)⟩
  · have words : Raw.ofString interpreter.text ::
          (Invocation.install interpreter tool).argv.map Raw.ofString =
        Raw.ofString interpreter.text ::
          (["-m", "pip", "install", "--upgrade"].map Raw.ofString ++ [Raw.ofString tool]) := rfl
    refine ⟨?_, needs.program⟩
    rw [words, List.forall_mem_cons, List.forall_mem_append, List.forall_mem_singleton]
    exact ⟨needs.plainInterpreter, between, needs.plainTool⟩

/-- What an installation runs, and what a shell makes of the command that its failure names. -/
theorem manualInstall_repeats (resolved : workspace.config.interpreter? = some interpreter) :
    let call := (Invocation.install interpreter workspace.tool).call
    let manual := Invocation.manualInstall interpreter workspace.tool
    (∀ trace ending, (install workspace).Goes trace ending →
      trace.filterMap Event.call? = [call] ∧
        ∀ message, ending = some (.failed message) → ∃ front,
          message = front ++ "`" ++ manual ++ "`") ∧
    (lineWords? (Raw.ofString manual) = some call.words ↔
      NeedsNoQuotes interpreter workspace.tool) ∧
    (NeedsNoQuotes interpreter workspace.tool →
      Reader.ReadsLine (Raw.ofString manual) call.words) := by
  intro call manual
  have cut := lineWords?_manualInstall_iff interpreter workspace.tool
  exact ⟨fun trace ending goes => goes_install_named resolved goes, cut, fun needs =>
    Reader.readsLine_of_lineWords? (cut.mpr needs) (List.cons_ne_nil _ _)⟩

/-- The settings of a workspace, with an interpreter. -/
def interpreterWorkspace (interpreter : String) : Workspace :=
  .start (Settings.value { interpreterPath := some interpreter }) []

/-- A path without anything to quote is read as it was run. -/
theorem manualInstall_repeats_plain :
    let workspace := interpreterWorkspace "/opt/py/bin/python"
    let manual := Invocation.manualInstall ⟨"/opt/py/bin/python"⟩ workspace.tool
    workspace.config.interpreter? = some ⟨"/opt/py/bin/python"⟩ ∧
      NeedsNoQuotes ⟨"/opt/py/bin/python"⟩ workspace.tool ∧
      Reader.ReadsLine (Raw.ofString manual)
        (["/opt/py/bin/python", "-m", "pip", "install", "--upgrade", "miko"].map Raw.ofString) := by
  intro workspace manual
  have resolved : workspace.config.interpreter? = some ⟨"/opt/py/bin/python"⟩ := by decide +kernel
  have needs : NeedsNoQuotes ⟨"/opt/py/bin/python"⟩ workspace.tool :=
    ⟨by decide +kernel, by decide +kernel, by decide +kernel⟩
  obtain ⟨-, -, reads⟩ := manualInstall_repeats resolved
  exact ⟨resolved, needs, reads needs⟩

/-- A shell takes a blank in the path of the interpreter for the end of the program. -/
theorem manualInstall_blank :
    let interpreter : Path := ⟨"/opt/my tools/python"⟩
    let workspace := interpreterWorkspace "/opt/my tools/python"
    let manual := Invocation.manualInstall interpreter workspace.tool
    let others := ["/opt/my", "tools/python", "-m", "pip", "install", "--upgrade", "miko"].map Raw.ofString
    workspace.config.interpreter? = some interpreter ∧
      lineWords? (Raw.ofString manual) = some others ∧ Reader.ReadsLine (Raw.ofString manual) others ∧
      lineWords? (Raw.ofString manual) ≠
        some (Invocation.install interpreter workspace.tool).call.words ∧
      ¬ Reader.ReadsLine (Raw.ofString manual)
        (Invocation.install interpreter workspace.tool).call.words := by
  intro interpreter workspace manual others
  have cut : lineWords? (Raw.ofString manual) = some others := by decide +kernel
  have read := Reader.readsLine_of_lineWords? cut (List.cons_ne_nil _ _)
  have different : others ≠ (Invocation.install interpreter workspace.tool).call.words := by
    decide +kernel
  exact ⟨by decide +kernel, cut, read, fun same => different (Option.some.inj (cut.symm.trans same)),
    fun same => different (read.unique same)⟩

end Command

end EditorBridge
