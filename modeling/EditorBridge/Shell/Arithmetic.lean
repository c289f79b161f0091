import EditorBridge.Shell.Variables

/-!
# Arithmetic

Integer expressions between double parentheses, in 64 bits: numbers, variables, the usual operators
from the tightest to the loosest, choices and assignments. A part whose value does not matter is read
but has no effect. Expressions are evaluated while they are read, so that of two faults the first one
counts.
-/

namespace EditorBridge.Shell.Arithmetic

/-- An operator on two integers. -/
inductive Operation where
  | multiply | divide | remainder | add | subtract | shiftLeft | shiftRight
  | less | lessEqual | greater | greaterEqual | equal | notEqual | bitAnd | bitXor | bitOr
  deriving DecidableEq, Repr

/-- A token of an expression. -/
inductive Lexeme where
  | number (n : Int)
  | name (raw : Raw)
  | operation (operation : Operation)
  /-- Gives a variable a value, made from its old one by an operation. -/
  | assignment (operation : Option Operation)
  | openParenthesis | closeParenthesis | question | colon | bothOf | eitherOf | negation | complement
  /-- A character without a meaning. -/
  | unknown
  deriving DecidableEq, Repr

namespace Operation

/-- How loosely an operator binds. -/
def level : Operation → Nat
  | .multiply | .divide | .remainder => 0
  | .add | .subtract => 1
  | .shiftLeft | .shiftRight => 2
  | .less | .lessEqual | .greater | .greaterEqual => 3
  | .equal | .notEqual => 4
  | .bitAnd => 5
  | .bitXor => 6
  | .bitOr => 7

/-- The level of the loosest operators. -/
def loosest : Nat := 7

/-- The truth of a comparison as an integer. -/
def truth (holds : Bool) : Int := if holds then 1 else 0

/-- An operation on the bits of two integers. -/
def onBits (operation : Nat → Nat → Nat) (a b : Int) : Int :=
  Numeral.wrap (operation (Numeral.unsigned a) (Numeral.unsigned b))

/-- How far bits are shifted. -/
def shiftOf (b : Int) : Nat := Numeral.unsigned b % 64

/-- The value of an operation; there is none for a division by zero. -/
def result? (operation : Operation) (a b : Int) : Option Int :=
  match operation with
  | .multiply => some (Numeral.wrap (a * b))
  | .divide => if b = 0 then none else some (Numeral.wrap (a.tdiv b))
  | .remainder => if b = 0 then none else some (a.tmod b)
  | .add => some (Numeral.wrap (a + b))
  | .subtract => some (Numeral.wrap (a - b))
  | .shiftLeft => some (Numeral.wrap (a * Decimal.twoTo (shiftOf b)))
  | .shiftRight => some (a.fdiv (Decimal.twoTo (shiftOf b)))
  | .less => some (truth (a < b))
  | .lessEqual => some (truth (a ≤ b))
  | .greater => some (truth (a > b))
  | .greaterEqual => some (truth (a ≥ b))
  | .equal => some (truth (a == b))
  | .notEqual => some (truth (a != b))
  | .bitAnd => some (onBits Nat.land a b)
  | .bitXor => some (onBits Nat.xor a b)
  | .bitOr => some (onBits Nat.lor a b)

/-- The division has no result that 64 bits can hold, which ends the process. -/
def overflows (operation : Operation) (a b : Int) : Bool :=
  (operation == .divide || operation == .remainder) && a == -(Numeral.half : Int) && b == -1

end Operation

/-! ### Tokens -/

/-- An operator that can also stand in front of an equals sign. -/
def compound (operation : Operation) : Raw → Lexeme × Raw
  | '=' :: rest => (.assignment (some operation), rest)
  | rest => (.operation operation, rest)

/-- The operator that starts with a character. -/
def operator (c : Char) (rest : Raw) : Lexeme × Raw :=
  match c, rest with
  | '=', '=' :: rest => (.operation .equal, rest)
  | '=', rest => (.assignment none, rest)
  | '>', '=' :: rest => (.operation .greaterEqual, rest)
  | '>', '>' :: rest => compound .shiftRight rest
  | '>', rest => (.operation .greater, rest)
  | '<', '=' :: rest => (.operation .lessEqual, rest)
  | '<', '<' :: rest => compound .shiftLeft rest
  | '<', rest => (.operation .less, rest)
  | '|', '|' :: rest => (.eitherOf, rest)
  | '|', rest => compound .bitOr rest
  | '&', '&' :: rest => (.bothOf, rest)
  | '&', rest => compound .bitAnd rest
  | '!', '=' :: rest => (.operation .notEqual, rest)
  | '!', rest => (.negation, rest)
  | '*', rest => compound .multiply rest
  | '/', rest => compound .divide rest
  | '%', rest => compound .remainder rest
  | '+', rest => compound .add rest
  | '-', rest => compound .subtract rest
  | '^', rest => compound .bitXor rest
  | '~', rest => (.complement, rest)
  | '(', rest => (.openParenthesis, rest)
  | ')', rest => (.closeParenthesis, rest)
  | '?', rest => (.question, rest)
  | ':', rest => (.colon, rest)
  | _, rest => (.unknown, rest)

/-- The tokens of a text. The fuel is the length of the text. -/
def tokens : Nat → Raw → List Lexeme
  | 0, _ | _, [] => []
  | fuel + 1, c :: rest =>
    if c == ' ' || c == '\t' || c == '\n' then tokens fuel rest
    else if Decimal.isDigit c then
      let numeral := Numeral.read true (c :: rest)
      .number numeral.clamped :: tokens fuel numeral.rest
    else if isNameStart c then
      let name := (c :: rest).takeWhile isNameChar
      .name name :: tokens fuel ((c :: rest).drop name.length)
    else
      let (lexeme, rest) := operator c rest
      lexeme :: tokens fuel rest

/-! ### Values -/

/-- Refuses the expression. -/
def refuse {α : Type} (source : Raw) (reason : String) : Act α :=
  Act.fail (Raw.ofString ("arithmetic expression: " ++ reason ++ ": \"") ++ source ++ ['"'])

/-- The value of a variable. -/
def lookUp (name : Raw) : Act Int := do
  let value := ((← Act.frame).value? name).getD []
  match integerOf? value with
  | some n => return n
  | none => Act.fail (Raw.ofString "Illegal number: " ++ value)

/-- The value of an operation. -/
def combine (source : Raw) (operation : Operation) (a b : Int) : Act Int := do
  if operation.overflows a b then
    let process := (← Act.frame).process
    Act.modifyWorld fun world => world.deliver process 8
    Act.checkAlive
  match operation.result? a b with
  | some n => return n
  | none => refuse source "division by zero"

mutual

/-- Reads a number, a variable, a signed operand or an expression in parentheses. -/
def operand (source : Raw) : Nat → (counts : Bool) → List Lexeme → Act (Int × List Lexeme)
  | 0, _, _ => refuse source "expecting primary"
  | fuel + 1, counts, lexemes => do
    match lexemes with
    | .number n :: rest => return (n, rest)
    | .name name :: rest => if counts then return (← lookUp name, rest) else return (0, rest)
    | .openParenthesis :: rest =>
      match ← assigning source fuel counts rest with
      | (n, .closeParenthesis :: rest) => return (n, rest)
      | _ => refuse source "expecting ')'"
    | .operation .add :: rest => operand source fuel counts rest
    | .operation .subtract :: rest =>
      let (n, rest) ← operand source fuel counts rest
      return (Numeral.wrap (-n), rest)
    | .negation :: rest =>
      let (n, rest) ← operand source fuel counts rest
      return (Operation.truth (n == 0), rest)
    | .complement :: rest =>
      let (n, rest) ← operand source fuel counts rest
      return (-n - 1, rest)
    | _ => refuse source "expecting primary"

/-- Reads operands joined by operators of a level or tighter ones. -/
def level (source : Raw) : Nat → Bool → Nat → List Lexeme → Act (Int × List Lexeme)
  | 0, _, _, _ => refuse source "expecting primary"
  | fuel + 1, counts, loosest, lexemes => do
    let (first, rest) ← match loosest with
      | 0 => operand source fuel counts lexemes
      | tighter + 1 => level source fuel counts tighter lexemes
    continued source fuel counts loosest first rest

/-- Goes on behind the first operand of a level. -/
def continued (source : Raw) : Nat → Bool → Nat → Int → List Lexeme → Act (Int × List Lexeme)
  | 0, _, _, _, _ => refuse source "expecting primary"
  | fuel + 1, counts, loosest, first, lexemes => do
    match lexemes with
    | .operation operation :: rest =>
      if operation.level != loosest then return (first, lexemes)
      else
        let (second, rest) ← match loosest with
          | 0 => operand source fuel counts rest
          | tighter + 1 => level source fuel counts tighter rest
        let n ← if counts then combine source operation first second else pure second
        continued source fuel counts loosest n rest
    | _ => return (first, lexemes)

/-- Reads parts joined by `&&`. -/
def conjunction (source : Raw) : Nat → Bool → List Lexeme → Act (Int × List Lexeme)
  | 0, _, _ => refuse source "expecting primary"
  | fuel + 1, counts, lexemes => do
    let (first, rest) ← level source fuel counts Operation.loosest lexemes
    match rest with
    | .bothOf :: rest =>
      let (second, rest) ← conjunction source fuel (counts && first != 0) rest
      return (Operation.truth (first != 0 && second != 0), rest)
    | rest => return (first, rest)

/-- Reads parts joined by `||`. -/
def disjunction (source : Raw) : Nat → Bool → List Lexeme → Act (Int × List Lexeme)
  | 0, _, _ => refuse source "expecting primary"
  | fuel + 1, counts, lexemes => do
    let (first, rest) ← conjunction source fuel counts lexemes
    match rest with
    | .eitherOf :: rest =>
      let (second, rest) ← disjunction source fuel (counts && first == 0) rest
      return (Operation.truth (first != 0 || second != 0), rest)
    | rest => return (first, rest)

/-- Reads a choice between two parts. -/
def choice (source : Raw) : Nat → Bool → List Lexeme → Act (Int × List Lexeme)
  | 0, _, _ => refuse source "expecting primary"
  | fuel + 1, counts, lexemes => do
    let (test, rest) ← disjunction source fuel counts lexemes
    match rest with
    | .question :: rest =>
      match ← assigning source fuel (counts && test != 0) rest with
      | (yes, .colon :: rest) =>
        let (no, rest) ← choice source fuel (counts && test == 0) rest
        return (if test != 0 then yes else no, rest)
      | _ => refuse source "expecting ':'"
    | rest => return (test, rest)

/-- Reads an assignment, or another expression. -/
def assigning (source : Raw) : Nat → Bool → List Lexeme → Act (Int × List Lexeme)
  | 0, _, _ => refuse source "expecting primary"
  | fuel + 1, counts, lexemes => do
    match lexemes with
    | .name name :: .assignment operation :: rest =>
      let (n, rest) ← assigning source fuel counts rest
      if counts then
        let n ← match operation with
          | some operation => do combine source operation (← lookUp name) n
          | none => pure n
        Act.assign name (Raw.ofInt n)
        return (n, rest)
      else return (n, rest)
    | lexemes => choice source fuel counts lexemes

end

/-- The value of an expression. -/
def evaluate (source : Raw) : Act Int := do
  let (n, rest) ← assigning source (32 * (source.length + 1)) true (tokens source.length source)
  if rest.isEmpty then return n else refuse source "expecting EOF"

end EditorBridge.Shell.Arithmetic
