import EditorBridge.Shell.Printing.Layout
import EditorBridge.Shell.Tools.Options

/-!
# Printing by a format

The program that prints arguments as a format says. It knows more escapes than the builtin of the same
name, reads fractions with more bits, and ends at a directive that there is not.
-/

namespace EditorBridge.Shell.Tools.Printf

open Printing

/-- What printing comes to. -/
inductive Stop where
  /-- The output ends here. -/
  | quiet
  /-- A fault ends it. -/
  | failed
  deriving DecidableEq, Repr

/-- The arguments that are left for directives. -/
structure Feed where
  arguments : List Raw
  /-- An argument was taken. -/
  used : Bool
  status : Nat

/-- Prints and takes arguments. -/
abbrev Printer := ExceptT Stop (StateT Feed Act)

/-- Prints. -/
def put (raw : Raw) : Printer Unit := (Act.print raw : Act Unit)

/-- Complains; printing goes on. -/
def warn (program message : Raw) : Printer Unit := (complain program message : Act Unit)

/-- Ends with a complaint. -/
def fail {α : Type} (program message : Raw) : Printer α := do
  warn program message
  throw .failed

/-- Takes the next argument. -/
def take : Printer (Option Raw) := do
  let feed ← getThe Feed
  match feed.arguments with
  | [] => return none
  | argument :: rest =>
    modify fun feed => { feed with arguments := rest, used := true }
    return some argument

/-- Complains about an argument that is no number. -/
def check (program argument rest : Raw) (isOutside : Bool) : Printer Unit := do
  let tell (reason : String) : Printer Unit := do
    warn program (quoted argument ++ Raw.ofString (": " ++ reason))
    modifyThe Feed fun feed => { feed with status := 1 }
  if isOutside then tell "Numerical result out of range"
  else if !rest.isEmpty then
    tell (if rest.length == argument.length then "expected a numeric value"
      else "value not completely converted")

/-- Reads the number of the character behind a quote, or a number. -/
def numberOr {α : Type} (program argument : Raw) (ofByte : Nat → α) (read : Printer α) :
    Printer α := do
  match argument with
  | '\'' :: c :: rest | '"' :: c :: rest =>
    if !rest.isEmpty then
      warn program (Raw.ofString "warning: " ++ rest ++
        Raw.ofString ": character(s) following character constant have been ignored")
    return ofByte c.toNat
  | _ => read

/-- Reads an integer. -/
def wholeOf (program argument : Raw) : Printer Int :=
  numberOr program argument Int.ofNat do
    let numeral := Numeral.read true argument
    check program argument numeral.rest numeral.isOutside
    return numeral.clamped

/-- Reads a natural number; an integer below zero counts as the one with the same bits. -/
def unsignedOf (program argument : Raw) : Printer Nat :=
  numberOr program argument id do
    let numeral := Numeral.read true argument
    let isOutside := Numeral.limit ≤ numeral.magnitude
    check program argument numeral.rest isOutside
    return if isOutside then Numeral.limit - 1 else Numeral.unsigned numeral.value

/-- The mantissa of a number in the format with its highest bit set. -/
def normalized (format : Decimal.BinaryFormat) : Decimal.Printed → Decimal.Printed
  | .finite negative mantissa exponent =>
    let shift := if mantissa = 0 then 0 else format.bits - 1 - mantissa.log2
    .finite negative (mantissa * Decimal.twoTo shift) (exponent - shift)
  | value => value

/-- Reads a fraction. -/
def realOf (program argument : Raw) : Printer Decimal.Printed :=
  numberOr program argument (fun n => normalized .extended (.finite false n 0)) do
    let numeral := RealNumeral.read .extended argument
    check program argument numeral.rest numeral.isOutside
    return normalized .extended numeral.value

/-! ### Escapes -/

/-- The text of a character beyond the usual ones: its number in base sixteen. -/
def wideText (n : Nat) : Raw :=
  let digits := (digitsOf 16 n).map Char.toUpper
  if n < 128 then [Char.ofNat n]
  else if n < 0x10000 then ['\\', 'u'] ++ Decimal.padLeft 4 digits
  else ['\\', 'U'] ++ Decimal.padLeft 8 digits

/-- Prints what the text behind a backslash stands for; the answer is what follows it. -/
def escape (program : Raw) (withZero : Bool) (raw : Raw) : Printer Raw := do
  let missing : Raw := Raw.ofString "missing hexadecimal number in escape"
  match raw with
  | [] =>
    put ['\\']
    return []
  | c :: rest =>
    if c == 'x' then
      let digits := digitsAt 16 2 rest
      if digits.isEmpty then fail program missing
      else
        put [byte (valueOf 16 digits)]
        return rest.drop digits.length
    else if isOctal c then
      let body := if withZero && c == '0' then rest else raw
      let digits := digitsAt 8 3 body
      put [byte (valueOf 8 digits)]
      return body.drop digits.length
    else if c == 'c' then throw .quiet
    else if c == '"' then
      put ['"']
      return rest
    else if c == 'u' || c == 'U' then
      let count := if c == 'u' then 4 else 8
      let digits := digitsAt 16 count rest
      if digits.length < count then fail program missing
      else
        let n := valueOf 16 digits
        if 0xD800 ≤ n && n ≤ 0xDFFF then
          fail program (Raw.ofString "invalid universal character name \\" ++
            c :: Decimal.padLeft count (digitsOf 16 n))
        else
          put (wideText n)
          return rest.drop count
    else match escape? c with
      | some d =>
        put [d]
        return rest
      | none =>
        put ['\\', c]
        return rest

/-- Prints an argument with its escapes read. The fuel is the length of the text. -/
def escapedText (program : Raw) : Nat → Raw → Printer Unit
  | 0, _ | _, [] => pure ()
  | fuel + 1, '\\' :: rest => do escapedText program fuel (← escape program true rest)
  | fuel + 1, c :: rest => do
    put [c]
    escapedText program fuel rest

/-! ### Directives -/

/-- A width or a precision as it was written. -/
inductive Size where
  | absent
  | given (size : Int)
  deriving DecidableEq, Repr

/-- Reads a width or a precision: digits, or a star for an argument. -/
def size (program : Raw) (isWidth : Bool) (raw : Raw) : Printer (Size × Raw) := do
  match raw with
  | '*' :: rest =>
    match ← take with
    | none => return (.given 0, rest)
    | some argument =>
      let n ← wholeOf program argument
      if 0x7FFFFFFF < n || (isWidth && n < -0x80000000) then
        fail program
          (Raw.ofString (if isWidth then "invalid field width: " else "invalid precision: ") ++
            quoted argument)
      else return (.given n, rest)
  | raw =>
    let digits := raw.takeWhile Decimal.isDigit
    return (if digits.isEmpty then .absent else .given (Decimal.value digits),
      raw.drop digits.length)

/-- The conversions that a flag leaves. -/
def allowedBy (flag : Char) (conversions : Raw) : Raw :=
  let without (lost : String) : Raw := conversions.filter fun c => !lost.contains c
  match flag with
  | '\'' | 'I' => without "aAceEosxX"
  | '#' => without "cdisu"
  | '0' => without "cs"
  | '.' => without "c"
  | _ => conversions

/-- Reads the flags of a directive, with the conversions that they leave. -/
def flagsOf (layout : Layout) (conversions : Raw) : Raw → Layout × Raw × Raw
  | [] => (layout, conversions, [])
  | c :: rest =>
    match layout.flag? c with
    | some layout => flagsOf layout (allowedBy c conversions) rest
    | none =>
      if c == '\'' || c == 'I' then flagsOf layout (allowedBy c conversions) rest
      else (layout, conversions, c :: rest)

/-- Prints an argument as a conversion says. -/
def convert (program : Raw) (layout : Layout) (conversion : Char) (argument : Raw) :
    Printer Unit := do
  if Layout.isReal conversion then
    put (layout.real .extended conversion (← realOf program argument))
  else match conversion with
    | 's' => put (layout.text argument)
    | 'c' => put (layout.pad [argument.headD '\x00'])
    | 'd' | 'i' => put (layout.signed (← wholeOf program argument))
    | _ => put (layout.unsigned conversion (← unsignedOf program argument))

/-- Reads a directive behind its percent sign and prints an argument; the answer is what follows. -/
def directive (program raw : Raw) : Printer Raw := do
  let (layout, conversions, rest) := flagsOf {} "aAcdeEfFgGiosuxX".toList raw
  let (width, rest) ← size program true rest
  let layout := match width with
    | .given width => layout.setWidth width
    | .absent => layout
  let (layout, conversions, rest) ← match rest with
    | '.' :: rest => do
      let (precision, rest) ← size program false rest
      let precision := match precision with
        | .given precision => precision
        | .absent => 0
      pure (layout.setPrecision precision, allowedBy '.' conversions, rest)
    | rest => pure (layout, conversions, rest)
  let rest := rest.dropWhile fun c => "lLhjtz".contains c
  let conversion := rest.headD ' '
  if conversions.contains conversion then
    convert program layout conversion ((← take).getD [])
    return rest.drop 1
  else
    let spelled := raw.take (raw.length - rest.length + 1)
    fail program ('%' :: spelled ++ Raw.ofString ": invalid conversion specification")

/-- Reads the format once. The fuel is the length of the format. -/
def once (program : Raw) : Nat → Raw → Printer Unit
  | 0, _ | _, [] => pure ()
  | fuel + 1, '%' :: '%' :: rest => do
    put ['%']
    once program fuel rest
  | fuel + 1, '%' :: 'b' :: rest => do
    let argument := (← take).getD []
    escapedText program argument.length argument
    once program fuel rest
  | fuel + 1, '%' :: 'q' :: rest => do
    match ← take with
    | some argument => put (shownName argument)
    | none => pure ()
    once program fuel rest
  | fuel + 1, '%' :: rest => do once program fuel (← directive program rest)
  | fuel + 1, '\\' :: rest => do once program fuel (← escape program false rest)
  | fuel + 1, c :: rest => do
    put [c]
    once program fuel rest

/-- Reads the format as often as it takes arguments. The fuel is more than their number. -/
def pages (program format : Raw) : Nat → Printer Unit
  | 0 => pure ()
  | fuel + 1 => do
    modifyThe Feed fun feed => { feed with used := false }
    once program format.length format
    let feed ← getThe Feed
    if feed.arguments.isEmpty then pure ()
    else if feed.used then pages program format fuel
    else
      warn program (Raw.ofString "warning: ignoring excess arguments, starting with " ++
        quoted (feed.arguments.headD []))

/-- Prints by a format. -/
def perform (program : Raw) (arguments : List Raw) : Act Nat := do
  let isHelp := match arguments with
    | [argument] => argument == Raw.ofString "--help" || argument == Raw.ofString "--version"
    | _ => false
  if isHelp then return 0
  else
    let arguments := if arguments.head? == some ['-', '-'] then arguments.drop 1 else arguments
    match arguments with
    | [] => missingOperand program
    | format :: arguments =>
      let (result, feed) ← (pages program format (arguments.length + 1)).run.run
        ⟨arguments, false, 0⟩
      match result with
      | .error .failed => return 1
      | .error .quiet => return 0
      | .ok () => return feed.status

end EditorBridge.Shell.Tools.Printf
