import EditorBridge.Decimal.Binary64
import EditorBridge.Decimal.Digits

/-!
# Numbers with a given number of places

A binary number `± mantissa · 2 ^ exponent` is a fraction of two naturals; its decimal text with some
number of places is found exactly, a tie going to the even digit. The positional form counts places
behind the point, the form with an exponent counts the digits behind the first one.
-/

namespace EditorBridge.Decimal

/-- The numbers of a binary format: how many bits a mantissa has, and the least and the greatest
exponent. -/
structure BinaryFormat where
  bits : Nat
  least : Int
  greatest : Int
  deriving DecidableEq, Repr

namespace BinaryFormat

/-- Numbers of 64 bits. -/
def double : BinaryFormat := ⟨53, Binary64.minExponent, Binary64.maxExponent⟩

/-- Numbers of 80 bits. -/
def extended : BinaryFormat := ⟨64, -16445, 16320⟩

end BinaryFormat

/-- A number that is printed. -/
inductive Printed where
  | nan (negative : Bool)
  | infinite (negative : Bool)
  | finite (negative : Bool) (mantissa : Nat) (exponent : Int)
  deriving DecidableEq, Repr

namespace Printed

/-- The number of a format that is nearest to a fraction. The second part says whether the fraction is
too great or too small for the format. -/
def ofRatio (format : BinaryFormat) (negative : Bool) (numerator denominator : Nat) :
    Printed × Bool :=
  if numerator = 0 then (.finite negative 0 0, false)
  else
    let full := Binary64.floorLog2 numerator denominator - (format.bits - 1)
    let exponent := max full format.least
    let (above, below) :=
      if 0 ≤ exponent then (numerator, denominator * twoTo exponent.toNat)
      else (numerator * twoTo (-exponent).toNat, denominator)
    let rounded := Binary64.divideToEven above below
    let (mantissa, exponent) :=
      if rounded = twoTo format.bits then (twoTo (format.bits - 1), exponent + 1)
      else (rounded, exponent)
    if format.greatest < exponent then (.infinite negative, true)
    else (.finite negative mantissa exponent, full < format.least && above % below != 0)

/-- The number of a format that is nearest to `± coefficient · 10 ^ exponent`. -/
def ofDecimal (format : BinaryFormat) (negative : Bool) (coefficient : Nat) (exponent : Int) :
    Printed × Bool :=
  let size := (ofNat coefficient).length
  if coefficient = 0 then (.finite negative 0 0, false)
  else if 20000 < exponent then (.infinite negative, true)
  else if exponent + size < -20000 then (.finite negative 0 0, true)
  else if 0 ≤ exponent then ofRatio format negative (coefficient * tenTo exponent.toNat) 1
  else ofRatio format negative coefficient (tenTo (-exponent).toNat)

/-- The number of a format that is nearest to `± coefficient · 2 ^ exponent`. -/
def ofBinary (format : BinaryFormat) (negative : Bool) (coefficient : Nat) (exponent : Int) :
    Printed × Bool :=
  if coefficient = 0 then (.finite negative 0 0, false)
  else if 60000 < exponent then (.infinite negative, true)
  else if exponent + coefficient.log2 < -60000 then (.finite negative 0 0, true)
  else if 0 ≤ exponent then ofRatio format negative (coefficient * twoTo exponent.toNat) 1
  else ofRatio format negative coefficient (twoTo (-exponent).toNat)

/-- The number is below zero, or a zero with a minus. -/
def isNegative : Printed → Bool
  | .nan negative | .infinite negative | .finite negative _ _ => negative

end Printed

/-- A positive number as a fraction. -/
def fractionOf (mantissa : Nat) (exponent : Int) : Nat × Nat :=
  (mantissa * twoTo exponent.toNat, twoTo (-exponent).toNat)

/-- Digits with zeros in front, up to a length. -/
def padLeft (length : Nat) (digits : List Char) : List Char :=
  List.replicate (length - digits.length) '0' ++ digits

/-- Digits with a point in front of the last few of them; without places the point stands only if it
is asked for. -/
def withPoint (places : Nat) (point : Bool) (digits : List Char) : List Char :=
  let padded := padLeft (places + 1) digits
  let whole := padded.take (padded.length - places)
  if places = 0 then if point then whole ++ ['.'] else whole
  else whole ++ '.' :: padded.drop (padded.length - places)

/-- The positional text of a number with some places. -/
def fixedText (places : Nat) (point : Bool) (mantissa : Nat) (exponent : Int) : List Char :=
  let (numerator, denominator) := fractionOf mantissa exponent
  withPoint places point (ofNat (Binary64.divideToEven (numerator * tenTo places) denominator))

/-- A fraction times a power of ten. -/
def scaled (numerator denominator : Nat) (tens : Int) : Nat × Nat :=
  (numerator * tenTo tens.toNat, denominator * tenTo (-tens).toNat)

/-- The greatest power of ten that is not above a positive fraction. -/
def magnitude (numerator denominator : Nat) : Int :=
  let guess : Int := ((ofNat numerator).length : Int) - (ofNat denominator).length
  let (above, below) := scaled numerator denominator (-guess)
  if below ≤ above then guess else guess - 1

/-- The digits of a number, one in front of the point and some behind it, and the exponent of the
first one. -/
def digitsAndExponent (places : Nat) (mantissa : Nat) (exponent : Int) : List Char × Int :=
  if mantissa = 0 then (List.replicate (places + 1) '0', 0)
  else
    let (numerator, denominator) := fractionOf mantissa exponent
    let first := magnitude numerator denominator
    let (above, below) := scaled numerator denominator (places - first)
    let digits := ofNat (Binary64.divideToEven above below)
    if digits.length = places + 1 then (digits, first) else (digits.dropLast, first + 1)

/-- An exponent with its sign and at least two digits. -/
def exponentText (exponent : Int) : List Char :=
  (if exponent < 0 then '-' else '+') :: padLeft 2 (ofNat exponent.natAbs)

/-- The text of a number with an exponent. -/
def scientificText (places : Nat) (point : Bool) (mantissa : Nat) (exponent : Int) : List Char :=
  let (digits, first) := digitsAndExponent places mantissa exponent
  withPoint places point digits ++ 'e' :: exponentText first

/-- Digits with a point, without the zeros at the end and a point that nothing follows. -/
def withoutZeros (text : List Char) : List Char :=
  if text.contains '.' then
    let short := (text.reverse.dropWhile (· == '0')).reverse
    if short.getLast? == some '.' then short.dropLast else short
  else text

/-- The text of a number with so many digits, positional unless its exponent is too small or too
great. Zeros at the end are kept only if that is asked for. -/
def generalText (digits : Nat) (keepZeros : Bool) (mantissa : Nat) (exponent : Int) : List Char :=
  let count := max digits 1
  let trim (text : List Char) : List Char := if keepZeros then text else withoutZeros text
  let (found, first) := digitsAndExponent (count - 1) mantissa exponent
  if -4 ≤ first && first < count then
    trim (fixedText (count - 1 - first).toNat keepZeros mantissa exponent)
  else trim (withPoint (count - 1) keepZeros found) ++ 'e' :: exponentText first

end EditorBridge.Decimal
