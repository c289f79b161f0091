import EditorBridge.Error

/-!
# Outcomes

How a command request ended, and the notification that tells the user. Every outcome but a skipped
request has exactly one notification.
-/

namespace EditorBridge

/-- The severity of a notification. -/
inductive Level where
  | info
  | warning
  | error
  deriving DecidableEq, Repr

/-- A message to the user. -/
structure Notification where
  level : Level
  message : String
  deriving DecidableEq, Repr

/-- How a command request ended. -/
inductive Outcome where
  /-- There was nothing to act on. -/
  | skipped
  | succeeded (message : String)
  /-- The user turned down an offered action. -/
  | declined (message : String)
  /-- Settings are missing or invalid. -/
  | configError (message : String)
  /-- The tool failed, or its result could not be applied. -/
  | failed (message : String)
  deriving DecidableEq, Repr, Inhabited

namespace Outcome

/-- The outcome of an error: misconfiguration is told apart from failure. -/
def ofError (error : Error) : Outcome :=
  if error.isMisconfiguration then .configError error.message else .failed error.message

/-- The outcome of a result. -/
def ofResult : Except Error String → Outcome
  | .ok message => .succeeded message
  | .error error => ofError error

/-- The request did what was asked. -/
def isSuccess : Outcome → Bool
  | .succeeded _ => true
  | _ => false

/-- The request ended in an error. -/
def isError : Outcome → Bool
  | .configError _ | .failed _ => true
  | _ => false

/-- What the user is told. -/
def notification? : Outcome → Option Notification
  | .skipped => none
  | .succeeded message => some ⟨.info, message⟩
  | .declined message => some ⟨.warning, message⟩
  | .configError message | .failed message => some ⟨.error, message⟩

end Outcome

/-- The outcomes of one command, in the order of its documents. -/
structure Report where
  outcomes : List Outcome
  deriving DecidableEq, Repr

/-- No outcome is an error. -/
def Report.isSuccess (report : Report) : Bool := !report.outcomes.any Outcome.isError

end EditorBridge
