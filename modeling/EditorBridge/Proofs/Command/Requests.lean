import EditorBridge.Command.Install
import EditorBridge.Command.Overview
import EditorBridge.Proofs.Command.Cleaning

/-!
# The requests of commands

What a command can ask for at all: a condition that holds of these requests, whatever is answered,
holds of every event on the ways of the command.

## Main statements

`always_formatDocument`, `always_render`, `always_install`, `always_ensureInstalled`: one such rule
for each command.
-/

namespace EditorBridge.Command

open Program

variable {condition : Event → Prop} {workspace : Workspace}

theorem always_formatDocument {document : Document} {save : Bool}
    (saves : SaveNeeded document save → ∀ answer, condition ⟨.save document, answer⟩)
    (runs : ∀ interpreter answer,
      condition ⟨.run (cleaning workspace interpreter document).call, answer⟩)
    (replaces : ∀ output, ¬ Kept workspace document output →
      ∀ answer, condition ⟨.replace document output, answer⟩)
    (tells : ∀ notification answer, condition ⟨.notify notification, answer⟩) :
    (formatDocument workspace document save).Always condition :=
  always_bind (always_clean saves runs replaces) fun _ => always_report tells

theorem always_render {source : Path}
    (runs : ∀ interpreter answer,
      condition ⟨.run (rendering workspace interpreter source).call, answer⟩) :
    (render workspace source).Always condition := by
  unfold render
  split
  next => exact always_done _
  next interpreter _ => exact always_bind (always_invoke (runs interpreter)) fun _ => always_done _

theorem always_probe {interpreter : Path}
    (runs : ∀ answer,
      condition ⟨.run (Invocation.probe interpreter workspace.tool).call, answer⟩) :
    (probe workspace interpreter).Always condition := by
  refine always_bind (always_invoke runs) fun result => ?_
  cases result <;> exact always_done _

section

variable
  (installs : ∀ interpreter answer,
    condition ⟨.run (Invocation.install interpreter workspace.tool).call, answer⟩)
  (tells : ∀ notification answer, condition ⟨.notify notification, answer⟩)

include installs tells

theorem always_installWith (interpreter : Path) :
    (installWith workspace interpreter).Always condition :=
  always_bind (always_invoke (installs interpreter)) fun _ => always_report tells

theorem always_install : (install workspace).Always condition := by
  unfold install
  split
  next => exact always_report tells
  next interpreter _ => exact always_installWith installs tells interpreter

theorem always_ensureInstalled
    (probes : ∀ interpreter answer,
      condition ⟨.run (Invocation.probe interpreter workspace.tool).call, answer⟩)
    (asks : ∀ question answer, condition ⟨.confirm question, answer⟩) :
    (ensureInstalled workspace).Always condition := by
  unfold ensureInstalled
  split
  next => exact always_report tells
  next interpreter _ =>
    refine always_bind (always_probe (probes interpreter)) fun status => ?_
    split
    next => exact always_report tells
    next question _ =>
      refine always_bind (always_request (asks question)) fun answer => ?_
      split
      next => exact always_installWith installs tells interpreter
      next => exact always_report tells
      next => exact always_report tells

end

end EditorBridge.Command
