import EditorBridge.Decimal.Digits
import EditorBridge.Shell.Raw
import EditorBridge.Text.Quoted

/-!
# Numerals

Integers as programs read them from text: blanks, a sign, and digits in base ten, or in the base that
the digits announce. Numbers are kept within 64 bits; what lies outside counts as out of range.
-/

namespace EditorBridge.Shell

/-- The value of a digit in bases up to thirty-six. -/
def digitOf? (c : Char) : Option Nat :=
  if Decimal.isDigit c then some (Decimal.digitValue c)
  else if 'a' ≤ c && c ≤ 'z' then some (c.toNat - 'a'.toNat + 10)
  else if 'A' ≤ c && c ≤ 'Z' then some (c.toNat - 'A'.toNat + 10)
  else none

/-- A digit of a base. -/
def isDigitOf (base : Nat) (c : Char) : Bool := (digitOf? c).any (· < base)

/-- The number that digits of a base spell. -/
def valueOf (base : Nat) (digits : Raw) : Nat :=
  digits.foldl (fun total c => base * total + (digitOf? c).getD 0) 0

/-- The digits of a number in a base, at least one. -/
def digitsOf (base : Nat) (n : Nat) : Raw :=
  if _h : n < base ∨ base < 2 then [Text.hexDigit n]
  else digitsOf base (n / base) ++ [Text.hexDigit (n % base)]
termination_by n
decreasing_by exact Nat.div_lt_self (by omega) (by omega)

/-- A number at the start of a text. -/
structure Numeral where
  negative : Bool
  magnitude : Nat
  /-- What follows the number; the whole text when there is none. -/
  rest : Raw
  deriving DecidableEq, Repr

namespace Numeral

/-- The first number that 64 bits cannot hold. -/
def limit : Nat := Decimal.twoTo 64

/-- The least number that needs the last of 64 bits. -/
def half : Nat := Decimal.twoTo 63

/-- Splits off a sign; the first part says whether it is a minus. -/
def sign : Raw → Bool × Raw
  | '-' :: rest => (true, rest)
  | '+' :: rest => (false, rest)
  | rest => (false, rest)

/-- The base that the start of a number announces, and the digits behind that. -/
def announced : Raw → Nat × Raw
  | '0' :: x :: c :: rest =>
    if (x == 'x' || x == 'X') && isDigitOf 16 c then (16, c :: rest) else (8, '0' :: x :: c :: rest)
  | '0' :: rest => (8, '0' :: rest)
  | rest => (10, rest)

/-- Reads a number whose digits announce their base, or one in base ten. -/
def read (anyBase : Bool) (raw : Raw) : Numeral :=
  let (negative, body) := sign (raw.dropWhile Raw.isBlank)
  let (base, body) := if anyBase then announced body else (10, body)
  let digits := body.takeWhile (isDigitOf base)
  if digits.isEmpty then ⟨false, 0, raw⟩
  else ⟨negative, valueOf base digits, body.drop digits.length⟩

/-- The number as an integer. -/
def value (numeral : Numeral) : Int :=
  if numeral.negative then -(numeral.magnitude : Int) else numeral.magnitude

/-- The number lies outside the signed numbers of 64 bits. -/
def isOutside (numeral : Numeral) : Bool :=
  numeral.value < -(half : Int) || (half : Int) ≤ numeral.value

/-- The nearest signed number of 64 bits. -/
def clamped (numeral : Numeral) : Int := max (-(half : Int)) (min numeral.value (half - 1))

/-- The signed number with the same last 64 bits. -/
def wrap (n : Int) : Int := Int.bmod n limit

/-- The unsigned number with the same last 64 bits. -/
def unsigned (n : Int) : Nat := (n % (limit : Int)).toNat

/-- The integer that a whole text spells, blanks around it aside. -/
def whole? (anyBase : Bool) (raw : Raw) : Option Int :=
  let numeral := read anyBase raw
  if numeral.isOutside || numeral.rest.length == raw.length || !numeral.rest.all Raw.isBlank then none
  else some numeral.value

end Numeral

end EditorBridge.Shell
