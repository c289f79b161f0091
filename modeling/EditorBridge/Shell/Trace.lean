import EditorBridge.Shell.Expansion
import EditorBridge.Shell.Reader.Grammar

/-!
# Tracing

A shell can tell each simple command before it runs it, behind a text of its own that is expanded
every time.
-/

namespace EditorBridge.Shell.Trace

/-- The text in front of a command that is told; as it stands, if it cannot be expanded. -/
def start (substitute : Command → Act Raw) : Act Raw := do
  let raw := ((← Act.frame).value? (Raw.ofString "PS4")).getD []
  let expanded : Act Raw := do
    match Reader.readText raw with
    | .ok word => Expansion.text substitute word
    | .error refusal => Act.fail (Raw.ofString refusal.problem.message)
  Act.modifyFrame fun frame => frame.turn .xtrace false
  let status := (← get).status
  let found ← Act.catching expanded fun flow => do
    Act.setStatus status
    if flow == .fails then return raw else throw flow
  Act.modifyFrame fun frame => frame.turn .xtrace true
  return found

/-- Tells a command on a descriptor, if the shell does that. -/
def tell (substitute : Command → Act Raw) (descriptor : Nat) (fields : List Raw) : Act Unit := do
  if (← Act.frame).isOn .xtrace then
    let text ← start substitute
    let _ ← Act.write descriptor (text ++ [' '].intercalate fields ++ ['\n'])

end EditorBridge.Shell.Trace
