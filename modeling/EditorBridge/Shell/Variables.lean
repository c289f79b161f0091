import EditorBridge.Shell.Descriptor

/-!
# Variables and parameters

Reading and giving values. A variable that keeps its value refuses a new one, which fails; a few
variables have an effect on the shell when they get a value.
-/

namespace EditorBridge.Shell

namespace Act

/-- The variable that says which parameter is read as an option next. -/
def optionIndexName : Raw := Raw.ofString "OPTIND"

/-- Reads a number of at most 31 bits that is not negative. -/
def number (raw : Raw) : Act Nat := do
  match Numeral.whole? false raw with
  | some n =>
    if 0 ≤ n && n ≤ 0x7FFFFFFF then return n.toNat else fail (Raw.ofString "Illegal number: " ++ raw)
  | none => fail (Raw.ofString "Illegal number: " ++ raw)

/-- Refuses a text that cannot name a variable. -/
def checkName (name : Raw) : Act Unit := do
  if !isName name then failAbout name "bad variable name"

/-- Refuses to change a variable that keeps its value. -/
def checkFree (name : Raw) : Act Unit := do
  if (← frame).isFixed name then failAbout name "is read only"

/-- Gives a variable a value. -/
def assign (name value : Raw) : Act Unit := do
  checkFree name
  if name == optionIndexName then
    let index ← number value
    modifyFrame fun frame =>
      { frame with optionIndex := if index = 0 then 1 else index, optionOffset := none }
  if name == Raw.ofString "PATH" then modifyFrame fun frame => { frame with remembered := [] }
  modifyFrame fun frame => frame.assign name value

/-- Takes a variable away. -/
def unassign (name : Raw) : Act Unit := do
  checkName name
  checkFree name
  modifyFrame fun frame => frame.unbind name

/-- Remembers what a name stands for, for as long as the present call lasts. -/
def localize (name : Raw) : Act Unit :=
  modifyFrame fun frame =>
    match frame.scopes with
    | scope :: scopes => { frame with scopes := ((name, frame.binding? name) :: scope) :: scopes }
    | [] => frame

/-- Changes the marks of a variable, which need not have a value. -/
def mark (name : Raw) (change : Variable → Variable) : Act Unit :=
  modifyFrame fun frame => frame.bind (change ((frame.binding? name).getD ⟨name, none, false, false⟩))

/-- Does something with variables of its own, and puts the variables back that it remembered. -/
def withOwnVariables {α : Type} (act : Act α) : Act α := do
  modifyFrame fun frame => { frame with scopes := [] :: frame.scopes }
  ending act <| modifyFrame fun frame =>
    match frame.scopes with
    | scope :: scopes =>
      scope.foldl (fun frame (name, before) => frame.restore name before)
        { frame with scopes := scopes }
    | [] => frame

end Act

/-- The number that the value of a variable spells; without a value it is zero. -/
def integerOf? (value : Raw) : Option Int :=
  if value.all Raw.isBlank then some 0 else Numeral.whole? true value

/-- The value of a parameter other than `@` and `*`; there is none when it is unset. -/
def State.parameter? (state : State) (name : Raw) : Option Raw :=
  let frame := state.frame
  match name with
  | ['#'] => some (Raw.ofNat frame.parameters.length)
  | ['?'] => some (Raw.ofNat state.status)
  | ['$'] => some (Raw.ofNat frame.root)
  | ['-'] => some frame.letters
  | ['!'] => frame.background.map Raw.ofNat
  | name =>
    if name.head?.any Decimal.isDigit then
      match Decimal.value name with
      | 0 => some frame.name
      | index + 1 => frame.parameters[index]?
    else frame.value? name

end EditorBridge.Shell
