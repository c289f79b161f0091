import EditorBridge.Proofs.Program.Hosts
import EditorBridge.Terminal.Host

/-!
# What the terminal prints

A terminal prints as it answers, so the events of a run say what the run printed. Only replacing the
content of an untitled buffer and notifying print on the standard output, as long as the runner
captures what its processes print.

## Main statements

`run_stdout`: a run prints on the standard output what its events print, one behind the other.

`flatMap_printed`: while the standard output is reserved, that is the content of the untitled
buffers and nothing else.
-/

namespace EditorBridge

/-- A runner that captures what its processes print. -/
def Runner.Captures (runner : Runner) : Prop :=
  ∀ call machine, (runner call machine).2.stdout = machine.stdout

theorem Machine.execute_stdout (machine : Machine) (directory : Place) (found : Launch) :
    (machine.execute directory found).2.stdout = machine.stdout := by
  simp only [execute]

theorem Machine.spawn_stdout (machine : Machine) (call : Call) :
    (machine.spawn call).2.stdout = machine.stdout := by
  unfold spawn
  split
  next => rfl
  next =>
    dsimp only
    split
    next => rfl
    next directory found _ => exact machine.execute_stdout directory found

theorem Machine.writeText_stdout {machine written : Machine} {path : Path} {text : String}
    (done : machine.writeText path text = .ok written) : written.stdout = machine.stdout := by
  simp only [writeText, Except.map] at done
  split at done
  next => cases done
  next tree _ =>
    obtain rfl := Except.ok.inj done
    rfl

theorem Runner.system_captures : Runner.system.Captures :=
  fun call machine => machine.spawn_stdout call

/-- What a replacement prints: the content of an untitled buffer. -/
def Replacement.printed (replacement : Replacement) : Text.Bytes :=
  if replacement.path.isNone then Text.encode replacement.content else []

namespace Terminal

/-- What an event prints on the standard output. -/
def printed (terminal : Terminal) (event : Event) : Text.Bytes :=
  match event.replacement?, event.notification? with
  | some replacement, _ => replacement.printed
  | none, some notification =>
    if notification.level = .info && !terminal.isOutputReserved then Text.encode (line notification)
    else []
  | none, none => []

/-- A request prints what its event prints. -/
theorem answer_stdout (terminal : Terminal) {runner : Runner} (captures : runner.Captures)
    (request : Request) (console : Console) :
    ((terminal.host runner).answer request console).2.machine.stdout =
      console.machine.stdout ++
        terminal.printed ⟨request, ((terminal.host runner).answer request console).1⟩ := by
  cases request with
  | save | confirm | registerCommand | registerScheme => exact (List.append_nil _).symm
  | run call => exact (captures call console.machine).trans (List.append_nil _).symm
  | replace document content =>
    -- The content of an untitled buffer is printed, that of a file is written to it.
    obtain ⟨_ | path, text, language, tabSize⟩ := document
    · rfl
    · simp only [host, replace]
      cases written : console.machine.writeText path content with
      | error reason => exact (List.append_nil _).symm
      | ok machine => exact (Machine.writeText_stdout written).trans (List.append_nil _).symm
  | notify notification =>
    simp only [host, notify, printed, Event.replacement?, Event.notification?]
    split
    next => rfl
    next => exact (List.append_nil _).symm

/-- A run prints what its events print, one behind the other. -/
theorem run_stdout {α : Type} {terminal : Terminal} {runner : Runner} (captures : runner.Captures)
    (program : Program α) (console : Console) :
    (program.run (terminal.host runner) console).state.machine.stdout =
      console.machine.stdout ++
        (program.run (terminal.host runner) console).trace.flatMap terminal.printed := by
  induction program generalizing console with
  | done value => exact (List.append_nil _).symm
  | ask request next ih =>
    have first := answer_stdout terminal captures request console
    unfold Program.run
    split
    next later stopped =>
      rw [stopped] at first
      simpa using first
    next answer later answered =>
      rw [answered] at first
      simp only at first
      rw [ih answer later, first, List.flatMap_cons, List.append_assoc]

/-- While the standard output is reserved, nothing but replacements is printed there. -/
theorem flatMap_printed {terminal : Terminal} (reserved : terminal.isOutputReserved = true)
    (trace : List Event) :
    trace.flatMap terminal.printed =
      (trace.filterMap Event.replacement?).flatMap Replacement.printed := by
  induction trace with
  | nil => rfl
  | cons event trace ih =>
    rw [List.flatMap_cons, ih, printed]
    cases replaced : event.replacement? with
    | none =>
      rw [List.filterMap_cons_none replaced]
      cases event.notification? <;> simp [reserved]
    | some replacement => rw [List.filterMap_cons_some replaced, List.flatMap_cons]

theorem host_hears (terminal : Terminal) (runner : Runner) : (terminal.host runner).Hears :=
  fun _ _ => rfl

end Terminal

end EditorBridge
