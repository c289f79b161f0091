import EditorBridge.Decimal.Binary64
import EditorBridge.Decimal.Digits

/-!
# The shortest decimal text of a number

A finite number is written with the fewest digits that still read back as the number, and among
those with the nearest decimal. The text is positional and always has a point.
-/

namespace EditorBridge.Decimal

/-- Compares `a · 10 ^ tens` with `b · 2 ^ twos`. -/
def compareScaled (a : Nat) (tens : Int) (b : Nat) (twos : Int) : Ordering :=
  compare (a * tenTo tens.toNat * twoTo (-twos).toNat)
    (b * twoTo twos.toNat * tenTo (-tens).toNat)

/-- The decimals that read back as a number: an interval around it, in quarters of its unit. -/
structure ReadBack where
  low : Nat
  middle : Nat
  high : Nat
  /-- Exponent of the quarter unit. -/
  exponent : Int
  /-- The ends belong to the interval. -/
  closed : Bool

/-- The interval of `mantissa · 2 ^ exponent`. Below a power of two the numbers lie closer. -/
def ReadBack.of (mantissa : Nat) (exponent : Int) : ReadBack where
  low := if mantissa = twoTo 52 ∧ Binary64.minExponent < exponent then 4 * mantissa - 1
    else 4 * mantissa - 2
  middle := 4 * mantissa
  high := 4 * mantissa + 2
  exponent := exponent - 2
  closed := mantissa % 2 = 0

/-- The decimal `coefficient · 10 ^ tens` reads back as the number. -/
def ReadBack.holds (interval : ReadBack) (coefficient : Nat) (tens : Int) : Bool :=
  let below := compareScaled coefficient tens interval.low interval.exponent
  let above := compareScaled coefficient tens interval.high interval.exponent
  (below == .gt || (interval.closed && below == .eq)) &&
    (above == .lt || (interval.closed && above == .eq))

/-- The coefficient on the grid of `10 ^ tens` that reads back, the nearer one of two; a value
half way between both goes up. -/
def ReadBack.onGrid? (interval : ReadBack) (tens : Int) : Option Nat :=
  let numerator := interval.middle * twoTo interval.exponent.toNat * tenTo (-tens).toNat
  let denominator := tenTo tens.toNat * twoTo (-interval.exponent).toNat
  let down := numerator / denominator
  let up := down + 1
  match interval.holds down tens, interval.holds up tens with
  | true, true => some (if 2 * (numerator % denominator) < denominator then down else up)
  | true, false => some down
  | false, true => some up
  | false, false => none

/-- The coarsest grid, from `tens` downwards, with a decimal that reads back. -/
def ReadBack.coarsest (interval : ReadBack) : (steps : Nat) → (tens : Int) → Nat × Int
  | 0, tens => (0, tens)
  | steps + 1, tens =>
    match interval.onGrid? tens with
    | some coefficient => (coefficient, tens)
    | none => interval.coarsest steps (tens - 1)

/-- The shortest decimal `coefficient · 10 ^ tens` of a positive number. Every number lies below
`10 ^ 309`, and seventeen digits always suffice, which bounds the search. -/
def shortest (mantissa : Nat) (exponent : Int) : Nat × Int :=
  (ReadBack.of mantissa exponent).coarsest 660 309

/-- Writes `coefficient · 10 ^ tens` positionally, with at least one digit on each side of the
point. -/
def positional (coefficient : Nat) (tens : Int) : List Char :=
  let digits := ofNat coefficient
  if 0 ≤ tens then digits ++ List.replicate tens.toNat '0' ++ ['.', '0']
  else
    let places := (-tens).toNat
    let padded := List.replicate (places + 1 - digits.length) '0' ++ digits
    let whole := padded.length - places
    padded.take whole ++ '.' :: padded.drop whole

end EditorBridge.Decimal

namespace EditorBridge.Binary64

/-- The decimal text of a number: `1.0`, `-0.0`, `0.0000001`, `NaN`, `inf`. -/
def text : Binary64 → String
  | .nan => "NaN"
  | .infinite negative => if negative then "-inf" else "inf"
  | .finite negative mantissa exponent =>
    let magnitude :=
      if mantissa = 0 then ['0', '.', '0']
      else
        let (coefficient, tens) := Decimal.shortest mantissa exponent
        Decimal.positional coefficient tens
    String.ofList (if negative then '-' :: magnitude else magnitude)

end EditorBridge.Binary64
