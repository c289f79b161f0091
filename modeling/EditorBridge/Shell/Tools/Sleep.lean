import EditorBridge.Shell.Printing.Real
import EditorBridge.Shell.Tools.Options

/-!
# Waiting

The program that lets time pass: the sum of its operands, each a number with a letter for its unit.
-/

namespace EditorBridge.Shell.Tools.Sleep

/-- The seconds of a unit. -/
def secondsOf? : Raw → Option Nat
  | [] | ['s'] => some 1
  | ['m'] => some 60
  | ['h'] => some 3600
  | ['d'] => some 86400
  | _ => none

/-- The nanoseconds in a second. -/
def second : Nat := 1000000000

/-- A time that no run is long enough for. -/
def forever : Nat := Decimal.tenTo 30

/-- The nanoseconds that an operand spells; a part of one counts as a whole one. -/
def duration? (operand : Raw) : Option Nat := do
  let numeral := Printing.RealNumeral.read .extended operand
  if numeral.rest.length == operand.length then none
  else
    let seconds ← secondsOf? numeral.rest
    let unit := seconds * second
    match numeral.value with
    | .nan _ | .infinite true => none
    | .infinite false => some forever
    | .finite negative mantissa exponent =>
      if negative && mantissa != 0 then none
      else if 0 ≤ exponent then some (min forever (mantissa * Decimal.twoTo exponent.toNat * unit))
      else
        let divisor := Decimal.twoTo (-exponent).toNat
        some (min forever ((mantissa * unit + (divisor - 1)) / divisor))

/-- Lets time pass. -/
def pass (duration : Nat) : Act Unit := do
  let finish := (← Act.world).clock + duration
  Act.stepping
    (fun () => do
      Act.checkAlive
      if finish ≤ (← Act.world).clock then return .inr ()
      else
        Act.await (.moment finish)
        return .inl ())
    Act.mostRounds ()

/-- Waits. -/
def perform (program : Raw) (arguments : List Raw) : Act Nat :=
  withReading program [] arguments fun reading => do
    if reading.operands.isEmpty then missingOperand program
    else
      let bad := reading.operands.filter fun operand => (duration? operand).isNone
      if bad.isEmpty then
        pass ((reading.operands.filterMap duration?).foldl (· + ·) 0)
        return 0
      else
        bad.forM fun operand =>
          complain program (Raw.ofString "invalid time interval " ++ quoted operand)
        tryHelp program
        return 1

end EditorBridge.Shell.Tools.Sleep
