import EditorBridge.Shell.Raw

/-!
# The syntax of the shell

Words, redirections and commands as they were read. A word keeps what was quoted and what has to be
expanded; commands hold their words, and an expansion can hold a command.
-/

namespace EditorBridge.Shell

/-- How the file of a redirection is opened. -/
inductive Direction where
  /-- `<` -/
  | input
  /-- `>` -/
  | output
  /-- `>|` -/
  | clobber
  /-- `>>` -/
  | append
  /-- `<>` -/
  | both
  deriving DecidableEq, Repr

/-- What is done about a parameter that is unset, or that may be empty. -/
inductive Fallback where
  /-- `-`: the word stands for it. -/
  | substitute
  /-- `=`: it gets the word as its value. -/
  | assign
  /-- `?`: it is reported. -/
  | refuse
  /-- `+`: only then nothing stands for it. -/
  | replace
  deriving DecidableEq, Repr

mutual

/-- A part of a word. -/
inductive Piece where
  | text (raw : Raw) (quoted : Bool)
  /-- Quotes stood here, so that the word counts even when it is empty. -/
  | mark
  | parameter (name : Raw) (use : Use) (quoted : Bool)
  /-- The output of a command. -/
  | command (body : Command) (quoted : Bool)
  /-- The value of an expression. -/
  | arithmetic (source : List Piece) (quoted : Bool)

/-- How the value of a parameter is used. -/
inductive Use where
  | plain
  | length
  /-- The fallback also counts for an empty value when `emptyToo` is on. -/
  | fallback (emptyToo : Bool) (action : Fallback) (word : List Piece)
  /-- Without the part that a pattern stands for at the start or the end. -/
  | strip (fromEnd longest : Bool) (pattern : List Piece)
  /-- A use that there is not. -/
  | unknown

/-- A redirection of a descriptor. -/
inductive Redirection where
  | file (descriptor : Nat) (direction : Direction) (target : List Piece)
  /-- Makes it the same as the descriptor that the target names, or closes it. -/
  | duplicate (descriptor : Nat) (target : List Piece)
  /-- A text that stands in the script. -/
  | document (descriptor : Nat) (body : List Piece)

/-- A command. -/
inductive Command where
  | nothing
  /-- A program, function or builtin with its arguments, behind assignments. -/
  | simple (line : Nat) (assignments : List (Raw × List Piece)) (words : List (List Piece))
      (redirections : List Redirection)
  | sequence (first second : Command)
  /-- `first && second` -/
  | bothOf (first second : Command)
  /-- `first || second` -/
  | eitherOf (first second : Command)
  | negation (command : Command)
  /-- `first | second` and so on. -/
  | pipeline (stages : List Command)
  /-- `command &` -/
  | background (command : Command)
  /-- `( command )` -/
  | subshell (line : Nat) (command : Command) (redirections : List Redirection)
  | redirected (line : Nat) (command : Command) (redirections : List Redirection)
  /-- `if test; then yes; else no; fi` -/
  | choice (test yes no : Command)
  /-- Repeats the body as long as the test succeeds, or fails when `untilDone` is on. -/
  | loop (untilDone : Bool) (test body : Command)
  /-- `for name in words; do body; done` -/
  | each (line : Nat) (name : Raw) (words : List (List Piece)) (body : Command)
  /-- `case subject in pattern) body;; … esac` -/
  | selection (line : Nat) (subject : List Piece) (arms : List (List (List Piece) × Command))
  /-- `name() body` -/
  | definition (name : Raw) (body : Command)

end

/-- A word. -/
abbrev Word := List Piece

instance : Inhabited Command := ⟨.nothing⟩

namespace Word

/-- The text of a word without quotes and expansions. -/
def plain? : Word → Option Raw
  | [.text raw false] => some raw
  | _ => none

/-- The word that stands for all parameters, each for itself. -/
def parameters : Word := [.parameter ['@'] .plain true]

/-- Something in the word is quoted. -/
def isQuoted (word : Word) : Bool :=
  word.any fun
    | .text _ quoted => quoted
    | .mark => true
    | _ => false

/-- The written text of a word that has no expansions. -/
def literal (word : Word) : Raw :=
  word.flatMap fun
    | .text raw _ => raw
    | _ => []

/-- The name and the value of a word that assigns. -/
def assignment? : Word → Option (Raw × Word)
  | .text raw false :: rest =>
    let name := raw.takeWhile isNameChar
    match raw.drop name.length with
    | '=' :: value =>
      if isName name then some (name, if value.isEmpty then rest else .text value false :: rest)
      else none
    | _ => none
  | _ => none

end Word

end EditorBridge.Shell
