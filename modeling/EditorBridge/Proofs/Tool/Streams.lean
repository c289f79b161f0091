import EditorBridge.Proofs.Program.Ways
import EditorBridge.Proofs.Text.Decoding

/-!
# The streams of a process

A module of the interpreter is run by one request, and how its process ended decides the result of
the run: the decoded output, or a failure that says why. What is decoded keeps all text that is in it.

## Main statements

`invoke_decodes`: the result of a run for every answer to its request, and what decoding keeps.
-/

namespace EditorBridge

/-- The result of running a module, by how its process ended. -/
inductive Invocation.Ends (moduleName : String) :
    Except String Output → Except ToolFailure String → Prop
  /-- The process never started. -/
  | unstarted (reason : String) : Ends moduleName (.error reason) (.error ⟨reason, none⟩)
  /-- The exit code has no say in a success. -/
  | succeeded {output : Output} : output.success = true →
      Ends moduleName (.ok output) (.ok (Text.decodeLossy output.stdout))
  | complained {output : Output} : output.success = false → output.stderr ≠ [] →
      Ends moduleName (.ok output) (.error ⟨Text.decodeLossy output.stderr, output.exitCode⟩)
  /-- The process exited without a word. -/
  | exited {output : Output} {code : Int} : output.success = false → output.stderr = [] →
      output.exitCode = some code →
      Ends moduleName (.ok output)
        (.error ⟨moduleName ++ " exited with status " ++ Decimal.intText code, some code⟩)
  /-- A signal ended the process without a word. -/
  | signalled {output : Output} : output.success = false → output.stderr = [] →
      output.exitCode = none →
      Ends moduleName (.ok output) (.error ⟨moduleName ++ " was terminated by a signal", none⟩)

namespace Invocation

theorem result_eq_iff_ends (invocation : Invocation) (answer : Except String Output)
    (result : Except ToolFailure String) :
    invocation.result answer = result ↔ Ends invocation.moduleName answer result := by
  constructor
  · rintro rfl
    cases answer with
    | error reason => exact .unstarted reason
    | ok output =>
      simp only [Invocation.result, failureMessage, List.isEmpty_iff]
      split
      next success => exact .succeeded success
      next failed =>
        have failed := Bool.eq_false_iff.mpr failed
        split
        next silent =>
          -- The error stream says nothing, so the message is made from the exit code.
          split
          next code exited => exact exited ▸ .exited failed silent exited
          next killed => exact killed ▸ .signalled failed silent killed
        next told => exact .complained failed told
  · intro ends
    cases ends with
    | unstarted reason => rfl
    | succeeded success => simp [Invocation.result, success]
    | complained failed told => simp [Invocation.result, failureMessage, failed, told]
    | exited failed silent exited => simp [Invocation.result, failureMessage, failed, silent, exited]
    | signalled failed silent killed =>
      simp [Invocation.result, failureMessage, failed, silent, killed]

end Invocation

/-- What a way of decoding bytes keeps of the text that is in them. -/
structure Text.KeepsText (decode : Bytes → String) : Prop where
  /-- Text is decoded as itself wherever it stands, and what stands around it as without it. -/
  amid : ∀ front text back, text ≠ "" →
    decode (front ++ encode text ++ back) = decode front ++ text ++ decode back
  inverts : ∀ text, decode (encode text) = text
  exact_iff : ∀ bytes, encode (decode bytes) = bytes ↔ bytes.toByteArray.IsValidUTF8
  /-- Bytes that are not valid leave a mark. -/
  marks : ∀ bytes : Bytes, ¬ bytes.toByteArray.IsValidUTF8 → replacement ∈ (decode bytes).toList

theorem Text.decodeLossy_keepsText : KeepsText decodeLossy where
  amid front _ back present := decodeLossy_append_encode_append front present back
  inverts := decodeLossy_encode
  exact_iff := encode_decodeLossy_iff
  marks _ := replacement_mem_decodeLossy

/-- Running a module, and installing the tool, is one request whose answer decides the result; and
the streams in it are decoded without loss of any text. -/
theorem invoke_decodes :
    (∀ (invocation : Invocation) (trace : List Event) (result : Except ToolFailure String),
      (Program.invoke invocation).Goes trace (some result) ↔
        ∃ answer, trace = [⟨.run invocation.call, some answer⟩] ∧
          Invocation.Ends invocation.moduleName answer result) ∧
    (∀ (interpreter : Path) (tool : String) (trace : List Event)
      (result : Except ToolFailure String),
      (Program.invoke (.install interpreter tool)).Goes trace (some result) ↔
        ∃ answer, trace =
            [⟨.run ⟨interpreter, ["-m", "pip", "install", "--upgrade", tool], none⟩, some answer⟩] ∧
          Invocation.Ends "pip" answer result) ∧
    Text.KeepsText Text.decodeLossy := by
  have runs : ∀ (invocation : Invocation) (trace : List Event)
      (result : Except ToolFailure String),
      (Program.invoke invocation).Goes trace (some result) ↔
        ∃ answer, trace = [⟨.run invocation.call, some answer⟩] ∧
          Invocation.Ends invocation.moduleName answer result := by
    intro invocation trace result
    rw [Program.goes_invoke]
    constructor
    · rintro ⟨_ | answer, rfl, ending⟩
      · cases ending
      · obtain rfl := Option.some.inj ending
        exact ⟨answer, rfl, (invocation.result_eq_iff_ends answer _).mp rfl⟩
    · rintro ⟨answer, rfl, ends⟩
      exact ⟨some answer, rfl, congrArg some ((invocation.result_eq_iff_ends answer _).mpr ends).symm⟩
  exact ⟨runs, fun interpreter tool => runs (.install interpreter tool), Text.decodeLossy_keepsText⟩

end EditorBridge
