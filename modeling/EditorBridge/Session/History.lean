import EditorBridge.Session.Basic

/-!
# Histories

Sessions over many steps. Between its actions a session can be given another configuration, other
documents and another script; the module name of the tool stays as it was at the start.
-/

namespace EditorBridge

/-- A step of a history. -/
inductive Step where
  | act (action : Action)
  | configure (config : Config)
  | open (documents : List Document)
  | direct (script : Script)

/-- What an action did, and the session that it was performed in. -/
structure Deed where
  before : Session
  action : Action
  run : Run Session Reply

namespace Session

/-- The session after a step, and what an action did. -/
def step (session : Session) : Step → Session × Option Deed
  | .act action =>
    let run := session.perform action
    (run.state, some ⟨session, action, run⟩)
  | .configure config =>
    (⟨{ session.workspace with config := config }, session.script⟩, none)
  | .open documents =>
    (⟨{ session.workspace with documents := documents }, session.script⟩, none)
  | .direct script => ({ session with script := script }, none)

/-- The session after all steps. -/
def after (session : Session) (steps : List Step) : Session :=
  steps.foldl (fun session step => (session.step step).1) session

/-- What the actions of a history did, first to last. -/
def deeds (session : Session) : List Step → List Deed
  | [] => []
  | step :: rest =>
    let (next, deed) := session.step step
    deed.toList ++ next.deeds rest

end Session

end EditorBridge
