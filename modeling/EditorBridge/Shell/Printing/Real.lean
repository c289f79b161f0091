import EditorBridge.Decimal.Places
import EditorBridge.Shell.Numeral

/-!
# Fractions in texts

Numbers with a point as programs read them from text, in base ten or sixteen, or as words, and their
text in base sixteen.
-/

namespace EditorBridge.Shell.Printing

open Decimal

/-- A number at the start of a text. -/
structure RealNumeral where
  value : Printed
  /-- The number is too great or too small for its format. -/
  isOutside : Bool
  /-- What follows the number; the whole text when there is none. -/
  rest : Raw

namespace RealNumeral

/-- A text without a number. -/
def absent (raw : Raw) : RealNumeral := ⟨.finite false 0 0, false, raw⟩

/-- Digits of a base with at most one point among them: the digits in front of it and behind it, and
what follows. -/
def digitsWithPoint (base : Nat) (raw : Raw) : Raw × Raw × Raw :=
  let whole := raw.takeWhile (isDigitOf base)
  match raw.drop whole.length with
  | '.' :: rest =>
    let places := rest.takeWhile (isDigitOf base)
    if whole.isEmpty && places.isEmpty then (whole, [], '.' :: rest)
    else (whole, places, rest.drop places.length)
  | rest => (whole, [], rest)

/-- The exponent behind a letter, and what follows it; zero when there is none. -/
def exponentAt (letter : Char) (raw : Raw) : Int × Raw :=
  match raw with
  | c :: rest =>
    if c.toLower == letter then
      let (negative, body) := Numeral.sign rest
      let digits := body.takeWhile isDigit
      if digits.isEmpty then (0, raw)
      else
        let n : Int := Decimal.value digits
        (if negative then -n else n, body.drop digits.length)
    else (0, raw)
  | [] => (0, raw)

/-- Reads a word for an infinite number or for none. -/
def word? (negative : Bool) (raw : Raw) : Option RealNumeral :=
  let starts (word : String) : Bool := word.toList.isPrefixOf (raw.map Char.toLower)
  if starts "infinity" then some ⟨.infinite negative, false, raw.drop 8⟩
  else if starts "inf" then some ⟨.infinite negative, false, raw.drop 3⟩
  else if starts "nan" then
    match raw.drop 3 with
    | '(' :: rest =>
      let inner := rest.takeWhile isNameChar
      match rest.drop inner.length with
      | ')' :: rest => some ⟨.nan negative, false, rest⟩
      | _ => some ⟨.nan negative, false, '(' :: rest⟩
    | rest => some ⟨.nan negative, false, rest⟩
  else none

/-- Reads digits, which may be announced as those of base sixteen. -/
def digits? (format : BinaryFormat) (negative : Bool) (raw : Raw) : Option RealNumeral :=
  let hexBody := match raw with
    | '0' :: x :: rest =>
      let (whole, places, _) := digitsWithPoint 16 rest
      if (x == 'x' || x == 'X') && !(whole.isEmpty && places.isEmpty) then some rest else none
    | _ => none
  match hexBody with
  | some body =>
    let (whole, places, rest) := digitsWithPoint 16 body
    let (exponent, rest) := exponentAt 'p' rest
    let (value, isOutside) :=
      Printed.ofBinary format negative (valueOf 16 (whole ++ places)) (exponent - 4 * places.length)
    some ⟨value, isOutside, rest⟩
  | none =>
    let (whole, places, rest) := digitsWithPoint 10 raw
    if whole.isEmpty && places.isEmpty then none
    else
      let (exponent, rest) := exponentAt 'e' rest
      let (value, isOutside) := Printed.ofDecimal format negative
        (Decimal.value (whole ++ places)) (exponent - places.length)
      some ⟨value, isOutside, rest⟩

/-- Reads a number of a format. -/
def read (format : BinaryFormat) (raw : Raw) : RealNumeral :=
  let (negative, body) := Numeral.sign (raw.dropWhile Raw.isBlank)
  ((word? negative body).or (digits? format negative body)).getD (absent raw)

end RealNumeral

/-- The text of a number in base sixteen, behind the `0x`. The first digit holds the bits that the
other digits leave over. -/
def hexText (format : BinaryFormat) (places : Option Nat) (point : Bool) (mantissa : Nat)
    (exponent : Int) : Raw :=
  let count := (format.bits - 1) / 4
  let kept := match places with
    | some places => places
    | none => count
  let (rounded, digits) :=
    if kept < count then (Binary64.divideToEven mantissa (twoTo (4 * (count - kept))), kept)
    else (mantissa * twoTo (4 * (kept - count)), kept)
  let text := withPoint digits point (digitsOf 16 rounded)
  let text := if places.isNone && !point then withoutZeros text else text
  let shown : Int := if mantissa = 0 then 0 else exponent + 4 * count
  text ++ 'p' :: (if shown < 0 then '-' else '+') :: ofNat shown.natAbs

end EditorBridge.Shell.Printing
