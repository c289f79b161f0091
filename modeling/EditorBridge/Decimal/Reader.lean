import EditorBridge.Decimal.Binary64
import EditorBridge.Decimal.Digits

/-!
# Reading a number from text

The free form in which people write numbers: a sign, digits with a point anywhere among them (or
at either end), and an exponent; or a word for infinity or for no number, in any case.
-/

namespace EditorBridge.Decimal

/-- ASCII letters in lower case. -/
def foldCase (text : List Char) : List Char := text.map Char.toLower

/-- Splits off a leading sign; `true` for minus. -/
def takeSign : List Char → Bool × List Char
  | '-' :: rest => (true, rest)
  | '+' :: rest => (false, rest)
  | text => (false, text)

/-- The exponent behind the digits of a number: nothing, or `e`, a sign and digits. -/
def exponent? : List Char → Option Int
  | [] => some 0
  | e :: rest =>
    if e = 'e' ∨ e = 'E' then
      let (negative, digits) := takeSign rest
      if digits.isEmpty || !digits.all isDigit then none
      else some (if negative then -(value digits : Int) else value digits)
    else none

/-- Unsigned digits with an optional point and exponent. -/
def unsigned? (negative : Bool) (text : List Char) : Option Binary64 := do
  let whole := text.takeWhile isDigit
  let rest := text.dropWhile isDigit
  let (places, rest) := match rest with
    | '.' :: rest => (rest.takeWhile isDigit, rest.dropWhile isDigit)
    | rest => ([], rest)
  if whole.isEmpty && places.isEmpty then none
  else
    let exponent ← exponent? rest
    return Binary64.ofDecimal negative (value (whole ++ places)) (exponent - places.length)

/-- The number nearest to what a text says, or nothing when the text is no number. -/
def number? (text : List Char) : Option Binary64 :=
  let (negative, magnitude) := takeSign text
  let word := foldCase magnitude
  if word = ['i', 'n', 'f'] ∨ word = ['i', 'n', 'f', 'i', 'n', 'i', 't', 'y'] then
    some (.infinite negative)
  else if word = ['n', 'a', 'n'] then some .nan
  else unsigned? negative magnitude

end EditorBridge.Decimal
