import EditorBridge.Decimal.Digits
import EditorBridge.Decimal.Binary64
import EditorBridge.Toml.Strings
import EditorBridge.Toml.Table

/-!
# Numbers and moments of a settings document

Integers of 64 bits in four bases, floating point numbers, dates and times. Underscores may stand
between two digits.
-/

namespace EditorBridge.Toml

/-! ### Numbers -/

/-- Reads digits with single underscores between them; the digits alone are the result. -/
def digitRun (isDigit : Char → Bool) : Reader (List Char)
  | [] => none
  | c :: rest => if isDigit c then some (more [c] rest) else none
where
  /-- The digits that follow, collected in reverse. -/
  more (found : List Char) : List Char → List Char × List Char
    | '_' :: c :: rest =>
      if isDigit c then more (c :: found) rest else (found.reverse, '_' :: c :: rest)
    | c :: rest => if isDigit c then more (c :: found) rest else (found.reverse, c :: rest)
    | [] => (found.reverse, [])

/-- Reads a sign, if there is one; `true` for minus. -/
def optionalSign : List Char → Bool × List Char
  | '-' :: rest => (true, rest)
  | '+' :: rest => (false, rest)
  | text => (false, text)

/-- Reads the digits before the point: no zero stands in front of another digit. -/
def wholeDigits : Reader (List Char)
  | '0' :: rest => some (['0'], rest)
  | text => digitRun Decimal.isDigit text

/-- Reads the digits behind a point, if there is one. -/
def places : Reader (Option (List Char))
  | '.' :: rest => (digitRun Decimal.isDigit rest).map fun (digits, rest) => (some digits, rest)
  | text => some (none, text)

/-- Reads an exponent, if there is one. -/
def power : Reader (Option Int)
  | c :: rest =>
    if c = 'e' ∨ c = 'E' then
      let (negative, digits) := optionalSign rest
      (digitRun Decimal.isDigit digits).map fun (digits, rest) =>
        (some (if negative then -(Decimal.value digits : Int) else Decimal.value digits), rest)
    else some (none, c :: rest)
  | [] => some (none, [])

/-- An integer within 64 bits. -/
def integer? (negative : Bool) (magnitude : Nat) : Option Value :=
  if negative then
    if magnitude ≤ Decimal.twoTo 63 then some (.integer (-magnitude)) else none
  else if magnitude < Decimal.twoTo 63 then some (.integer magnitude) else none

/-- A floating point number; one too large is refused, one too far below zero is not. -/
def float? (negative : Bool) (digits : List Char) (exponent : Int) : Option Value :=
  match Binary64.ofDecimal negative (Decimal.value digits) exponent with
  | .infinite false => none
  | number => some (.float number)

/-- Reads digits of a base behind its mark. -/
def based (isDigit : Char → Bool) (base : Nat) (text : List Char) :
    Option (Value × List Char) := do
  let (digits, rest) ← digitRun isDigit text
  let magnitude := digits.foldl (fun total c => base * total + (hexValue? c).getD 0) 0
  return (← integer? false magnitude, rest)

/-- Reads a decimal number behind its sign: a float when it has a point or an exponent. -/
def decimal (negative : Bool) (text : List Char) : Option (Value × List Char) := do
  let (whole, rest) ← wholeDigits text
  let (fraction, rest) ← places rest
  let (exponent, rest) ← power rest
  match fraction, exponent with
  | none, none => return (← integer? negative (Decimal.value whole), rest)
  | _, _ =>
    let fraction := fraction.getD []
    return (← float? negative (whole ++ fraction) (exponent.getD 0 - fraction.length), rest)

/-- Reads a number. Only unsigned integers have other bases than ten. -/
def number : Reader Value
  | '0' :: 'x' :: rest => based (fun c => (hexValue? c).isSome) 16 rest
  | '0' :: 'o' :: rest => based (fun c => '0' ≤ c && c ≤ '7') 8 rest
  | '0' :: 'b' :: rest => based (fun c => c == '0' || c == '1') 2 rest
  | text =>
    match optionalSign text with
    | (negative, 'i' :: 'n' :: 'f' :: rest) => some (.float (.infinite negative), rest)
    | (_, 'n' :: 'a' :: 'n' :: rest) => some (.float .nan, rest)
    | (negative, magnitude) => decimal negative magnitude

/-! ### Moments -/

/-- Reads a number of exactly `width` digits between two bounds. -/
def field (width low high : Nat) (text : List Char) : Option (Nat × List Char) :=
  let digits := text.take width
  if digits.length = width ∧ digits.all Decimal.isDigit then
    let value := Decimal.value digits
    if low ≤ value ∧ value ≤ high then some (value, text.drop width) else none
  else none

/-- Drops a mark that must stand at the front. -/
def expect (mark : Char) : List Char → Option (List Char)
  | c :: rest => if c = mark then some rest else none
  | [] => none

/-- The number of days of a month. -/
def daysIn (year month : Nat) : Nat :=
  if month = 2 then
    if year % 4 = 0 ∧ (year % 100 ≠ 0 ∨ year % 400 = 0) then 29 else 28
  else if month = 4 ∨ month = 6 ∨ month = 9 ∨ month = 11 then 30 else 31

/-- Passes a date. -/
def date? (text : List Char) : Option (List Char) := do
  let (year, rest) ← field 4 0 9999 text
  let (month, rest) ← field 2 1 12 (← expect '-' rest)
  let (_, rest) ← field 2 1 (daysIn year month) (← expect '-' rest)
  return rest

/-- Passes a fraction of a second, if there is one. -/
def fraction? : List Char → Option (List Char)
  | '.' :: c :: rest => if Decimal.isDigit c then some (rest.dropWhile Decimal.isDigit) else none
  | '.' :: [] => none
  | text => some text

/-- Passes a time of the day. A minute may have a leap second. -/
def time? (text : List Char) : Option (List Char) := do
  let (_, rest) ← field 2 0 23 text
  let (_, rest) ← field 2 0 59 (← expect ':' rest)
  let (_, rest) ← field 2 0 60 (← expect ':' rest)
  fraction? rest

/-- Passes the offset of a time zone. -/
def zone? : List Char → Option (List Char)
  | 'Z' :: rest | 'z' :: rest => some rest
  | c :: rest =>
    if c = '+' ∨ c = '-' then do
      let (_, rest) ← field 2 0 23 rest
      let (_, rest) ← field 2 0 59 (← expect ':' rest)
      return rest
    else none
  | [] => none

/-- Passes a date with the time and zone that may follow it, or a time. -/
def moment? (text : List Char) : Option (List Char) :=
  match date? text with
  | none => time? text
  | some rest =>
    match rest with
    | mark :: after =>
      if mark = 'T' ∨ mark = 't' ∨ mark = ' ' then
        match time? after with
        | some rest => some ((zone? rest).getD rest)
        | none => some (mark :: after)
      else some (mark :: after)
    | [] => some []

/-- Reads a moment or a number. -/
def momentOrNumber (text : List Char) : Option (Value × List Char) :=
  match moment? text with
  | some rest => some (.moment, rest)
  | none => number text

end EditorBridge.Toml
