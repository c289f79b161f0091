/-!
# Failures

Why an operation of the bridge did not succeed, and the one wording of each cause.
-/

namespace EditorBridge

/-- A tool run that did not succeed. There is no exit code when the process never started or a
signal ended it. -/
structure ToolFailure where
  message : String
  exitCode : Option Int
  deriving DecidableEq, Repr

/-- The causes an operation can fail for. -/
inductive Error where
  /-- The system refused an operation on files or processes. -/
  | io (message : String)
  /-- The interpreter setting is unset or blank. -/
  | interpreterNotFound
  /-- The tool could not be started or reported a failure. -/
  | process (failure : ToolFailure)
  /-- A text is not the URI of an overview. -/
  | invalidOverviewUri (uri : String)
  /-- The settings do not pass validation. -/
  | invalidConfig (reason : String)
  /-- A question could not be put to the user. -/
  | prompt (reason : String)
  /-- The settings file is no settings document. -/
  | malformedSettings (detail : String)
  deriving DecidableEq, Repr

/-- The text shown for an error. -/
def Error.message : Error → String
  | .io message => message
  | .interpreterNotFound =>
    "Python interpreter not found. Set `python.interpreter_path` in your docbridge settings."
  | .process failure => failure.message
  | .invalidOverviewUri uri => "Invalid overview document URI '" ++ uri ++ "'"
  | .invalidConfig reason => "Invalid configuration: " ++ reason
  | .prompt reason => "Prompt failed: " ++ reason
  | .malformedSettings detail => "TOML parse error: " ++ detail

/-- The user has to change the settings before the operation can succeed. -/
def Error.isMisconfiguration : Error → Bool
  | .interpreterNotFound | .invalidConfig _ | .malformedSettings _ => true
  | _ => false

end EditorBridge
