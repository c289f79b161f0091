import EditorBridge.Shell.Raw

/-!
# The builtins

The names of the commands that a shell performs itself. The special ones end the shell when they
fail, and keep the assignments in front of them; some take assignments as arguments.
-/

namespace EditorBridge.Shell.Builtin

/-- The special builtins. -/
def special : List String :=
  [".", ":", "break", "continue", "eval", "exec", "exit", "export", "local", "readonly", "return",
    "set", "shift", "times", "trap", "unset"]

/-- The other builtins. -/
def regular : List String :=
  ["[", "alias", "bg", "cd", "chdir", "command", "echo", "false", "fg", "getopts", "hash", "jobs",
    "kill", "printf", "pwd", "read", "test", "true", "type", "ulimit", "umask", "unalias", "wait"]

/-- The builtins that take assignments. -/
def assigning : List String := ["alias", "export", "local", "readonly"]

/-- The name is in a list. -/
def isIn (names : List String) (name : Raw) : Bool := names.contains (String.ofList name)

/-- The name is that of a special builtin. -/
def isSpecial (name : Raw) : Bool := isIn special name

/-- The name is that of a builtin. -/
def isBuiltin (name : Raw) : Bool := isSpecial name || isIn regular name

end EditorBridge.Shell.Builtin
