import EditorBridge.Decimal.Digits

/-!
# Binary floating point numbers, exactly

A number with 53 bits of precision is kept as its sign, its mantissa and its binary exponent, so
that every operation is arithmetic on `Nat` and `Int`. Ratios of naturals are rounded to the
nearest number, a tie going to the even mantissa; numbers too small for a full mantissa keep the
least exponent, numbers too large become infinite.
-/

namespace EditorBridge

/-- A binary64 number; `finite` stands for `± mantissa · 2 ^ exponent`. -/
inductive Binary64 where
  | nan
  | infinite (negative : Bool)
  | finite (negative : Bool) (mantissa : Nat) (exponent : Int)
  deriving DecidableEq, Repr, Inhabited

namespace Binary64

open Decimal

/-- The least exponent: the unit of the smallest numbers. -/
def minExponent : Int := -1074

/-- The exponent of the largest numbers. -/
def maxExponent : Int := 971

/-- The finite numbers in the one form that the format gives them. -/
def IsCanonical : Binary64 → Prop
  | .nan | .infinite _ => True
  | .finite _ mantissa exponent =>
    mantissa < twoTo 53 ∧ minExponent ≤ exponent ∧ exponent ≤ maxExponent ∧
      (twoTo 52 ≤ mantissa ∨ exponent = minExponent)

/-- Zero with a sign. -/
def zero (negative : Bool) : Binary64 := .finite negative 0 minExponent

/-! ### Rounding -/

/-- The quotient rounded to the nearest natural, a tie to the even one. -/
def divideToEven (numerator denominator : Nat) : Nat :=
  let quotient := numerator / denominator
  let twice := 2 * (numerator % denominator)
  if twice < denominator then quotient
  else if denominator < twice then quotient + 1
  else if quotient % 2 = 0 then quotient else quotient + 1

/-- The greatest `k` with `2 ^ k ≤ numerator / denominator`, for positive arguments. -/
def floorLog2 (numerator denominator : Nat) : Int :=
  let guess : Int := (numerator.log2 : Int) - denominator.log2
  let reached :=
    if 0 ≤ guess then denominator * twoTo guess.toNat ≤ numerator
    else denominator ≤ numerator * twoTo (-guess).toNat
  if reached then guess else guess - 1

/-- The number nearest to `± numerator / denominator`. -/
def ofRatio (negative : Bool) (numerator denominator : Nat) : Binary64 :=
  if numerator = 0 then zero negative
  else
    let exponent := max (floorLog2 numerator denominator - 52) minExponent
    let mantissa :=
      if 0 ≤ exponent then divideToEven numerator (denominator * twoTo exponent.toNat)
      else divideToEven (numerator * twoTo (-exponent).toNat) denominator
    let (mantissa, exponent) :=
      if mantissa = twoTo 53 then (twoTo 52, exponent + 1) else (mantissa, exponent)
    if maxExponent < exponent then .infinite negative else .finite negative mantissa exponent

/-- The number nearest to an integer. -/
def ofInt (n : Int) : Binary64 := ofRatio (n < 0) n.natAbs 1

/-- The number nearest to `± coefficient · 10 ^ exponent`. Exponents so far out that the result is
infinite or zero whatever the coefficient are decided before any power is formed. -/
def ofDecimal (negative : Bool) (coefficient : Nat) (exponent : Int) : Binary64 :=
  if coefficient = 0 then zero negative
  else if 400 < exponent then .infinite negative
  else if 0 ≤ exponent then ofRatio negative (coefficient * tenTo exponent.toNat) 1
  else if (coefficient.log2 : Int) + 1101 < 3 * -exponent then zero negative
  else ofRatio negative coefficient (tenTo (-exponent).toNat)

/-! ### Looking at a number -/

/-- A finite number above zero. -/
def isPositiveFinite : Binary64 → Bool
  | .finite false mantissa _ => mantissa != 0
  | _ => false

/-- The greatest natural not above a finite number; zero for the numbers below one. -/
def floor : Binary64 → Nat
  | .finite false mantissa exponent =>
    if 0 ≤ exponent then mantissa * twoTo exponent.toNat else mantissa / twoTo (-exponent).toNat
  | _ => 0

/-- The bits of the interchange format: sign, eleven bits of exponent, 52 bits of mantissa. -/
def toBits : Binary64 → Nat
  | .nan => 0x7FF8000000000000
  | .infinite negative => signBit negative + 0x7FF0000000000000
  | .finite negative mantissa exponent =>
    if mantissa < twoTo 52 then signBit negative + mantissa
    else signBit negative + (exponent + 1075).toNat * twoTo 52 + (mantissa - twoTo 52)
where
  signBit (negative : Bool) : Nat := if negative then twoTo 63 else 0

end Binary64

end EditorBridge
