/-!
# Digits and powers

Natural numbers as runs of ASCII digits: `value` reads a run, `ofNat` writes the shortest one. The
powers are those that number formats are made of.
-/

namespace EditorBridge.Decimal

/-! ### Digits -/

/-- One of `0` to `9`. -/
def isDigit (c : Char) : Bool := '0' ≤ c && c ≤ '9'

/-- The number a digit stands for. -/
def digitValue (c : Char) : Nat := c.toNat - '0'.toNat

/-- The number a run of digits stands for; leading zeros do not matter. -/
def value (digits : List Char) : Nat :=
  digits.foldl (fun total c => 10 * total + digitValue c) 0

/-- The digit for a number below ten. -/
def digit (n : Nat) : Char := Char.ofNat ('0'.toNat + n % 10)

/-- The decimal digits of a number, without leading zeros. -/
def ofNat (n : Nat) : List Char :=
  if n < 10 then [digit n] else ofNat (n / 10) ++ [digit n]
termination_by n
decreasing_by omega

/-- The decimal digits of an integer, behind a minus sign when it is negative. -/
def ofInt (n : Int) : List Char :=
  if n < 0 then '-' :: ofNat n.natAbs else ofNat n.natAbs

/-- `ofNat` as a string. -/
def natText (n : Nat) : String := String.ofList (ofNat n)

/-- `ofInt` as a string. -/
def intText (n : Int) : String := String.ofList (ofInt n)

/-! ### Powers -/

/-- The power of two with an exponent. -/
def twoTo (exponent : Nat) : Nat := Nat.pow 2 exponent

/-- The power of ten with an exponent. -/
def tenTo (exponent : Nat) : Nat := Nat.pow 10 exponent

theorem twoTo_succ (exponent : Nat) : twoTo (exponent + 1) = 2 * twoTo exponent := by
  simp only [twoTo, Nat.pow_eq, Nat.pow_succ, Nat.mul_comm]

theorem twoTo_pos (exponent : Nat) : 0 < twoTo exponent := Nat.pow_pos (by decide)

end EditorBridge.Decimal
