import EditorBridge.Shell.Printing.Escape
import EditorBridge.Shell.Printing.Real

/-!
# Laying out

How a directive of a format lays out a text or a number: flags, a least width, and a precision.
-/

namespace EditorBridge.Shell.Printing

/-- How a directive lays out its text. -/
structure Layout where
  left : Bool := false
  zero : Bool := false
  plus : Bool := false
  space : Bool := false
  alternate : Bool := false
  width : Nat := 0
  precision : Option Nat := none
  deriving DecidableEq, Repr

namespace Layout

/-- The layout with the flag that a character stands for. -/
def flag? (layout : Layout) : Char → Option Layout
  | '-' => some { layout with left := true }
  | '0' => some { layout with zero := true }
  | '+' => some { layout with plus := true }
  | ' ' => some { layout with space := true }
  | '#' => some { layout with alternate := true }
  | _ => none

/-- The layout with a width; one below zero moves the text to the left. -/
def setWidth (layout : Layout) (width : Int) : Layout :=
  { layout with width := width.natAbs, left := layout.left || width < 0 }

/-- The layout with a precision; one below zero does not count. -/
def setPrecision (layout : Layout) (precision : Int) : Layout :=
  { layout with precision := if precision < 0 then none else some precision.toNat }

/-- Pads a text to the width. -/
def pad (layout : Layout) (text : Raw) : Raw :=
  let gap := layout.width - text.length
  if layout.left then text ++ List.replicate gap ' ' else List.replicate gap ' ' ++ text

/-- Lays out a text, of which at most as much as the precision says is shown. -/
def text (layout : Layout) (raw : Raw) : Raw :=
  layout.pad (match layout.precision with
    | some precision => raw.take precision
    | none => raw)

/-- The sign of a number. -/
def sign (layout : Layout) (negative : Bool) : Raw :=
  if negative then ['-'] else if layout.plus then ['+'] else if layout.space then [' '] else []

/-- Lays out digits behind a mark; zeros fill the width between both if that is asked for. -/
def digits (layout : Layout) (fills : Bool) (mark raw : Raw) : Raw :=
  if fills && !layout.left then
    mark ++ List.replicate (layout.width - mark.length - raw.length) '0' ++ raw
  else layout.pad (mark ++ raw)

/-- Lays out an integer: a mark in front of digits, of which there are as many as the precision
says. -/
def whole (layout : Layout) (mark : Raw) (base n : Nat) : Raw :=
  let found := if n = 0 && layout.precision == some 0 then [] else digitsOf base n
  let found := match layout.precision with
    | some precision => Decimal.padLeft precision found
    | none => found
  let found := if layout.alternate && base == 8 && found.head? != some '0' then '0' :: found
    else found
  layout.digits (layout.zero && layout.precision.isNone) mark found

/-- Lays out an integer with a sign. -/
def signed (layout : Layout) (n : Int) : Raw := layout.whole (layout.sign (n < 0)) 10 n.natAbs

/-- Lays out an integer as a conversion without signs says. -/
def unsigned (layout : Layout) (conversion : Char) (n : Nat) : Raw :=
  let mark := if layout.alternate && n != 0 then ['0', 'x'] else []
  match conversion with
  | 'o' => layout.whole [] 8 n
  | 'x' => layout.whole mark 16 n
  | 'X' => (layout.whole mark 16 n).map Char.toUpper
  | _ => layout.whole [] 10 n

/-- The conversions of fractions. -/
def isReal (conversion : Char) : Bool := "aAeEfFgG".contains conversion

/-- The text of a positive number as a conversion says. -/
def magnitude (layout : Layout) (format : Decimal.BinaryFormat) (conversion : Char)
    (mantissa : Nat) (exponent : Int) : Raw :=
  let places := layout.precision.getD 6
  match conversion with
  | 'e' => Decimal.scientificText places layout.alternate mantissa exponent
  | 'g' => Decimal.generalText places layout.alternate mantissa exponent
  | 'a' => hexText format layout.precision layout.alternate mantissa exponent
  | _ => Decimal.fixedText places layout.alternate mantissa exponent

/-- Lays out a fraction as a conversion says. -/
def real (layout : Layout) (format : Decimal.BinaryFormat) (conversion : Char)
    (value : Decimal.Printed) : Raw :=
  let sign := layout.sign value.isNegative
  let kind := conversion.toLower
  let laid := match value with
    | .nan _ => layout.pad (sign ++ ['n', 'a', 'n'])
    | .infinite _ => layout.pad (sign ++ ['i', 'n', 'f'])
    | .finite _ mantissa exponent =>
      let mark := if kind == 'a' then sign ++ ['0', 'x'] else sign
      layout.digits layout.zero mark (layout.magnitude format kind mantissa exponent)
  if conversion == kind then laid else laid.map Char.toUpper

end Layout

/-- Reads the flags of a directive. -/
def flags (layout : Layout) : Raw → Layout × Raw
  | [] => (layout, [])
  | c :: rest =>
    match layout.flag? c with
    | some layout => flags layout rest
    | none => (layout, c :: rest)

end EditorBridge.Shell.Printing
