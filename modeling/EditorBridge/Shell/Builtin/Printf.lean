import EditorBridge.Shell.Printing.Layout
import EditorBridge.Shell.Variables

/-!
# Printing by a format

The builtin that prints arguments as a format says. Directives in the format take the arguments one
after the other, and the format is used again as long as arguments are left. An argument that is no
number is complained about, and printing goes on; a directive that there is not ends it.
-/

namespace EditorBridge.Shell.Builtin

open Printing

/-- The arguments that are left for directives. -/
structure Feed where
  arguments : List Raw
  /-- An argument was taken. -/
  used : Bool
  status : Nat

/-- Prints and takes arguments. -/
abbrev Printer := StateT Feed Act

namespace Printer

/-- Takes the next argument. -/
def take : Printer (Option Raw) := do
  let feed ← get
  match feed.arguments with
  | [] => return none
  | argument :: rest =>
    modify fun feed => { feed with arguments := rest, used := true }
    return some argument

/-- Takes the next argument; a missing one is empty. -/
def takeText : Printer Raw := do return (← take).getD []

/-- Complains about an argument. -/
def complain (argument : Raw) (reason : String) : Printer Unit := do
  Act.complain (argument ++ Raw.ofString (": " ++ reason))
  modify fun feed => { feed with status := 1 }

/-- Complains when a number does not make up its argument, or is out of range. -/
def check (argument rest : Raw) (isOutside : Bool) : Printer Unit := do
  if !rest.isEmpty then
    complain argument
      (if rest.length == argument.length then "expected numeric value" else "not completely converted")
  else if isOutside then complain argument "Numerical result out of range"

/-- The number of the character behind a quote. -/
def quotedChar? : Raw → Option Nat
  | '\'' :: rest | '"' :: rest => some ((rest.head?.map Char.toNat).getD 0)
  | _ => none

/-- Takes an integer. -/
def takeInt : Printer Int := do
  match ← take with
  | none => return 0
  | some argument =>
    match quotedChar? argument with
    | some n => return n
    | none =>
      let numeral := Numeral.read true argument
      check argument numeral.rest numeral.isOutside
      return numeral.clamped

/-- Takes a natural number; an integer below zero counts as the one with the same bits. -/
def takeNat : Printer Nat := do
  match ← take with
  | none => return 0
  | some argument =>
    match quotedChar? argument with
    | some n => return n
    | none =>
      let numeral := Numeral.read true argument
      let isOutside := Numeral.limit ≤ numeral.magnitude
      check argument numeral.rest isOutside
      return if isOutside then Numeral.limit - 1 else Numeral.unsigned numeral.value

/-- Takes a fraction. -/
def takeReal : Printer Decimal.Printed := do
  match ← take with
  | none => return .finite false 0 0
  | some argument =>
    match quotedChar? argument with
    | some n => return .finite false n 0
    | none =>
      let numeral := RealNumeral.read .double argument
      check argument numeral.rest numeral.isOutside
      return numeral.value

/-- Prints. -/
def put (raw : Raw) : Printer Unit := Act.print raw

/-- Reads a width or a precision: digits, or a star for an argument. -/
def size (raw : Raw) : Printer (Option Int × Raw) := do
  match raw with
  | '*' :: rest => return (some (Int.bmod (← takeInt) (Decimal.twoTo 32)), rest)
  | raw =>
    let digits := raw.takeWhile Decimal.isDigit
    return (if digits.isEmpty then none else some (Decimal.value digits), raw.drop digits.length)

/-- Prints an argument as a conversion says. The answer says whether printing goes on. -/
def convert (layout : Layout) (directive : Raw) (conversion : Char) : Printer Bool := do
  if Layout.isReal conversion then
    put (layout.real .double conversion (← takeReal))
    return true
  else match conversion with
    | 's' =>
      put (layout.text (← takeText))
      return true
    | 'b' =>
      let argument ← takeText
      let (text, more) := unescape argument.length argument
      put (layout.text text)
      return more
    | 'c' =>
      put (layout.pad [(← takeText).headD '\x00'])
      return true
    | 'd' | 'i' =>
      put (layout.signed (← takeInt))
      return true
    | 'o' | 'u' | 'x' | 'X' =>
      put (layout.unsigned conversion (← takeNat))
      return true
    | _ => Act.failAbout directive "invalid directive"

/-- Reads a directive behind its percent sign. -/
def directive (raw : Raw) : Printer (Bool × Raw) := do
  let (layout, rest) := flags {} raw
  let (width, rest) ← size rest
  let layout := match width with
    | some width => layout.setWidth width
    | none => layout
  let (layout, rest) ← match rest with
    | '.' :: rest => do
      let (precision, rest) ← size rest
      pure (layout.setPrecision (precision.getD 0), rest)
    | rest => pure (layout, rest)
  match rest with
  | [] => Act.fail (Raw.ofString "missing format character")
  | c :: rest =>
    let more ← convert layout ('%' :: raw.take (raw.length - rest.length)) c
    return (more, rest)

/-- Reads the format once. The answer says whether printing goes on. The fuel is the length of the
format. -/
def once : Nat → Raw → Printer Bool
  | 0, _ | _, [] => return true
  | fuel + 1, '%' :: '%' :: rest => do
    put ['%']
    once fuel rest
  | fuel + 1, '%' :: rest => do
    let (more, rest) ← directive rest
    if more then once fuel rest else return false
  | fuel + 1, '\\' :: rest => do
    let (found, rest) := afterBackslash rest
    put found
    once fuel rest
  | fuel + 1, c :: rest => do
    put [c]
    once fuel rest

/-- Reads the format as often as there are arguments. The fuel is more than their number. -/
def pages (format : Raw) : Nat → Printer Unit
  | 0 => pure ()
  | fuel + 1 => do
    let more ← once format.length format
    let feed ← get
    if more && feed.used && !feed.arguments.isEmpty then pages format fuel

end Printer

/-- Prints by a format. -/
def printf (arguments : List Raw) : Act Nat := do
  match arguments with
  | [] => Act.fail (Raw.ofString "usage: printf format [arg ...]")
  | format :: arguments =>
    let ((), feed) ← (Printer.pages format (arguments.length + 1)).run ⟨arguments, false, 0⟩
    return feed.status

end EditorBridge.Shell.Builtin
