import EditorBridge.Command.Program

/-!
# Scripted surroundings

A script says beforehand how each request is answered: saving and replacing by the document, a
process by its call, and questions by a list of answers that is used up from the front. Once the
list is empty every question is declined.
-/

namespace EditorBridge

/-- How requests are answered. -/
structure Script where
  save : Document → Except Error Unit
  replace : Document → String → Except Error Unit
  /-- A call without an answer ends the program that made it. -/
  run : Call → Option (Except String Output)
  answers : List (Except Error Bool)

namespace Script

/-- The answer to the next question. -/
def nextAnswer (answers : List (Except Error Bool)) : Except Error Bool :=
  answers.head?.getD (.ok false)

/-- Answers as the script says; the state holds the answers that are left. -/
def host (script : Script) : Host (List (Except Error Bool)) where
  answer
    | .save document, answers => (some (script.save document), answers)
    | .run call, answers => (script.run call, answers)
    | .replace document content, answers => (some (script.replace document content), answers)
    | .confirm _, answers => (some (nextAnswer answers), answers.tail)
    | .notify _, answers => (some (), answers)
    | .registerCommand _, answers => (some (), answers)
    | .registerScheme _, answers => (some (), answers)

end Script

/-! ### Rules for processes -/

/-- What happens to a process. -/
inductive Reaction where
  /-- Asking for the process ends the program. -/
  | crash
  /-- The process cannot be started. -/
  | refuse (reason : String)
  | finish (output : Output)
  deriving DecidableEq, Repr

/-- A reaction to every call that has a certain argument. -/
structure Rule where
  needle : String
  reaction : Reaction
  deriving DecidableEq, Repr

/-- The answer of a reaction. -/
def Reaction.answer? : Reaction → Option (Except String Output)
  | .crash => none
  | .refuse reason => some (.error reason)
  | .finish output => some (.ok output)

/-- A process that succeeds and prints nothing. -/
def Output.silent : Output := ⟨true, some 0, [], []⟩

/-- The answer of the first rule for the call; without one the process succeeds in silence. -/
def Rule.answer? (rules : List Rule) (call : Call) : Option (Except String Output) :=
  match rules.find? fun rule => call.arguments.contains rule.needle with
  | some rule => rule.reaction.answer?
  | none => some (.ok .silent)

end EditorBridge
