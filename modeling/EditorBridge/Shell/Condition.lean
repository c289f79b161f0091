import EditorBridge.Shell.World

/-!
# Conditions

What `test` decides about texts, numbers and files. The words are an expression of primaries with
`!`, `-a`, `-o` and parentheses. With three or four words the place of a word decides first, so that
an operand that looks like an operator is still an operand.
-/

namespace EditorBridge.Shell

/-- The files and descriptors that conditions ask about. -/
structure Surroundings where
  tree : Tree
  directory : Place
  /-- The descriptors that stand for something. -/
  descriptors : List Nat

namespace Condition

/-! ### Primaries -/

/-- What a path leads to. -/
def found? (around : Surroundings) (follow : Bool) (argument : Raw) : Option (Place × Node) :=
  match around.tree.walk follow around.directory ⟨Raw.toString argument⟩ with
  | .ok (.found _ (.device (.descriptor number))) =>
    if around.descriptors.contains number then some ([], .device (.descriptor number)) else none
  | .ok (.found place node) => some (place, node)
  | _ => none

/-- The node is a file. -/
def isFile : Node → Bool
  | .file .. | .program _ => true
  | _ => false

/-- The node can be run or searched. -/
def isExecutable : Node → Bool
  | .file _ executable => executable
  | .program _ | .directory => true
  | _ => false

/-- The node holds something. -/
def isFilled : Node → Bool
  | .file content _ => !content.isEmpty
  | .program _ | .directory => true
  | _ => false

/-- The node is a device. -/
def isDevice : Node → Bool
  | .device _ => true
  | _ => false

/-- The number that an operand spells. -/
def number (argument : Raw) : Except Raw Int :=
  match Numeral.whole? false argument with
  | some n => .ok n
  | none => .error (Raw.ofString "Illegal number: " ++ argument)

/-- The operators on one operand. -/
def unaryLetters : Raw := "rwxefdcbpugkstznhOGLS".toList

/-- The word is an operator on one operand. -/
def isUnary : Raw → Bool
  | ['-', letter] => unaryLetters.contains letter
  | _ => false

/-- Decides a condition on one operand. -/
def unary (around : Surroundings) (letter : Char) (argument : Raw) : Except Raw Bool :=
  let file (holds : Node → Bool) : Except Raw Bool :=
    .ok ((found? around true argument).any fun found => holds found.2)
  match letter with
  | 'n' => .ok (!argument.isEmpty)
  | 'z' => .ok argument.isEmpty
  | 't' => (number argument).map fun _ => false
  | 'e' | 'r' | 'w' | 'O' | 'G' => file fun _ => true
  | 'f' => file isFile
  | 'd' => file (· == .directory)
  | 's' => file isFilled
  | 'x' => file isExecutable
  | 'c' => file isDevice
  | 'h' | 'L' =>
    .ok ((found? around false argument).any fun found =>
      match found.2 with
      | .link _ => true
      | _ => false)
  | _ => .ok false

/-- The comparisons of texts. -/
def textComparison? : Raw → Option (Raw → Raw → Bool)
  | ['='] => some (· == ·)
  | ['!', '='] => some (· != ·)
  | ['<'] => some fun left right => decide (left < right)
  | ['>'] => some fun left right => decide (right < left)
  | _ => none

/-- The comparisons of numbers. -/
def numberComparison? : Raw → Option (Int → Int → Bool)
  | ['-', 'e', 'q'] => some (· == ·)
  | ['-', 'n', 'e'] => some (· != ·)
  | ['-', 'g', 't'] => some (· > ·)
  | ['-', 'g', 'e'] => some (· ≥ ·)
  | ['-', 'l', 't'] => some (· < ·)
  | ['-', 'l', 'e'] => some (· ≤ ·)
  | _ => none

/-- The comparisons of files: the same one, and a newer or an older one, which none is here. -/
def fileComparison? (around : Surroundings) : Raw → Option (Raw → Raw → Bool)
  | ['-', 'e', 'f'] => some fun left right =>
    match found? around true left, found? around true right with
    | some left, some right => left == right
    | _, _ => false
  | ['-', 'n', 't'] | ['-', 'o', 't'] => some fun _ _ => false
  | _ => none

/-- Decides a condition on two operands, if the operator is one. -/
def binary? (around : Surroundings) (operator left right : Raw) : Option (Except Raw Bool) :=
  match textComparison? operator with
  | some holds => some (.ok (holds left right))
  | none =>
    match numberComparison? operator with
    | some holds => some do return holds (← number left) (← number right)
    | none => (fileComparison? around operator).map fun holds => .ok (holds left right)

/-- The word is an operator between two operands. -/
def isBinary (operator : Raw) : Bool := (binary? ⟨⟨[]⟩, [], []⟩ operator [] []).isSome

/-! ### Expressions -/

/-- What a word counts as. -/
inductive Role where
  /-- There is no word. -/
  | finish
  | operand
  | unary (letter : Char)
  | binary
  | negation
  | bothOf
  | eitherOf
  | openParenthesis
  | closeParenthesis
  deriving DecidableEq, Repr

/-- What the word at a place counts as. An operator on one operand counts as an operand in front of
an operator between two, or at the end. -/
def roleAt (words : Array Raw) (place : Nat) : Role :=
  match words[place]? with
  | none => .finish
  | some ['!'] => .negation
  | some ['-', 'a'] => .bothOf
  | some ['-', 'o'] => .eitherOf
  | some ['('] => if place + 1 < words.size then .openParenthesis else .operand
  | some [')'] => .closeParenthesis
  | some word =>
    if isUnary word then
      let isOperand := match words[place + 1]? with
        | none => true
        | some next => place + 2 < words.size && isBinary next
      if isOperand then .operand else .unary (word.getD 1 ' ')
    else if isBinary word then .binary
    else .operand

/-- The word at a place. -/
def wordAt (words : Array Raw) (place : Nat) : Raw := (words[place]?).getD []

/-- Refuses a word. -/
def refuse {α : Type} (word : Raw) (reason : String) : Except Raw α :=
  .error (if word.isEmpty then Raw.ofString reason else word ++ Raw.ofString (": " ++ reason))

/-- Decides the condition whose first word is an operand. -/
def comparison (around : Surroundings) (words : Array Raw) (place : Nat) :
    Except Raw (Bool × Nat) :=
  let left := wordAt words place
  let operator := wordAt words (place + 1)
  match binary? around operator left (wordAt words (place + 2)) with
  | none => .ok (!left.isEmpty, place)
  | some result =>
    if place + 2 < words.size then do return (← result, place + 2)
    else refuse operator "argument expected"

mutual

/-- Reads conjunctions joined by `-o`. Every reader gives the place of the last word that it has
read. -/
def disjunction (around : Surroundings) (words : Array Raw) :
    Nat → Role → Nat → Except Raw (Bool × Nat)
  | 0, _, place => .ok (false, place)
  | fuel + 1, role, place => do
    let (first, last) ← conjunction around words fuel role place
    if roleAt words (last + 1) == .eitherOf then
      let (second, last) ← disjunction around words fuel (roleAt words (last + 2)) (last + 2)
      return (first || second, last)
    else return (first, last)

/-- Reads factors joined by `-a`. -/
def conjunction (around : Surroundings) (words : Array Raw) :
    Nat → Role → Nat → Except Raw (Bool × Nat)
  | 0, _, place => .ok (false, place)
  | fuel + 1, role, place => do
    let (first, last) ← factor around words fuel role place
    if roleAt words (last + 1) == .bothOf then
      let (second, last) ← conjunction around words fuel (roleAt words (last + 2)) (last + 2)
      return (first && second, last)
    else return (first, last)

/-- Reads a primary condition, one in parentheses, or a negated one. -/
def factor (around : Surroundings) (words : Array Raw) :
    Nat → Role → Nat → Except Raw (Bool × Nat)
  | 0, _, place => .ok (false, place)
  | fuel + 1, role, place => do
    match role with
    | .negation =>
      let next := roleAt words (place + 1)
      let (result, last) ←
        factor around words fuel next (if next == .finish then place else place + 1)
      return (!result, last)
    | .finish => return (false, place)
    | .openParenthesis =>
      let next := roleAt words (place + 1)
      if next == .closeParenthesis then return (false, place + 1)
      else
        let (result, last) ← disjunction around words fuel next (place + 1)
        if roleAt words (last + 1) == .closeParenthesis then return (result, last + 1)
        else refuse [] "closing paren expected"
    | .unary letter =>
      if place + 1 < words.size then
        return (← unary around letter (wordAt words (place + 1)), place + 1)
      else refuse (wordAt words place) "argument expected"
    | _ => comparison around words place

end

/-- Decides an expression of any length. -/
def expression (around : Surroundings) (words : Array Raw) (role : Role) : Except Raw Bool := do
  let (result, last) ← disjunction around words (4 * words.size + 4) role 0
  if last + 1 < words.size then refuse (wordAt words last) "unexpected operator"
  else return result

/-- Decides the condition that the words spell; `negated` says that an exclamation mark stood in front
of them. The fuel is more than the number of words. -/
def decideWithin (around : Surroundings) : Nat → Bool → List Raw → Except Raw Bool
  | 0, negated, _ => .ok negated
  | fuel + 1, negated, words => do
    let whole (role : Role) (words : List Raw) : Except Raw Bool := do
      return (← expression around words.toArray role) != negated
    let start (words : List Raw) : Role := roleAt words.toArray 0
    match words with
    | [] => return negated
    | [left, operator, right] =>
      if isBinary operator then whole .operand words
      else if left == ['('] && right == [')'] then whole (start [operator]) [operator]
      else if left == ['!'] then decideWithin around fuel true [operator, right]
      else whole (start words) words
    | [first, second, third, last] =>
      if first == ['('] && last == [')'] then whole (start [second, third]) [second, third]
      else if first == ['!'] then decideWithin around fuel true [second, third, last]
      else whole (start words) words
    | words => whole (start words) words

/-- Decides the condition that the words spell. -/
def holds (around : Surroundings) (words : List Raw) : Except Raw Bool :=
  decideWithin around (words.length + 1) false words

end Condition

end EditorBridge.Shell
