import EditorBridge.Decimal.Places
import EditorBridge.Shell.Builtin.Options

/-!
# Permissions of new files

The builtin that tells or changes which permissions new files do not get, as octal digits or as
clauses that name who, what is done, and which permissions.
-/

namespace EditorBridge.Shell.Builtin

/-- The bits of all permissions. -/
def allPermissions : Nat := 0o777

/-- The permissions that a mask leaves. -/
def unmasked (mask : Nat) : Nat := allPermissions - mask

/-- The permissions of the owner, the group and others, each from its letters. -/
def triple (permissions : Nat) : Raw :=
  let letters (shift : Nat) : Raw :=
    let bits := permissions / shift % 8
    [(4, 'r'), (2, 'w'), (1, 'x')].filterMap fun (bit, letter) =>
      if bits / bit % 2 == 1 then some letter else none
  ['u', '='] ++ letters 64 ++ [',', 'g', '='] ++ letters 8 ++ [',', 'o', '='] ++ letters 1

/-- The bits of those who are named by letters; nobody named stands for all. -/
def whoBits (letters : Raw) : Nat :=
  let bitsOf : Char → Nat
    | 'u' => 0o700
    | 'g' => 0o070
    | 'o' => 0o007
    | _ => allPermissions
  if letters.isEmpty then allPermissions else (letters.map bitsOf).foldl Nat.lor 0

/-- The bits of a permission, for everyone. -/
def permissionBits (permissions : Nat) : Char → Nat
  | 'r' => 0o444
  | 'w' => 0o222
  | 'x' => 0o111
  | 'X' => if permissions.land 0o111 == 0 then 0 else 0o111
  | 'u' => permissions / 64 % 8 * 0o111
  | 'g' => permissions / 8 % 8 * 0o111
  | 'o' => permissions % 8 * 0o111
  | _ => 0

/-- Carries out what follows those who are named in a clause: signs with permissions behind them. The
fuel is the length of the text. -/
def changed? (who : Nat) : Nat → Nat → Raw → Option Nat
  | _, permissions, [] => some permissions
  | 0, _, _ => none
  | fuel + 1, permissions, sign :: rest =>
    let letters := rest.takeWhile fun c => "rwxXstugo".contains c
    let bits := who.land ((letters.map (permissionBits permissions)).foldl Nat.lor 0)
    let without := permissions.land (allPermissions - bits)
    let next := rest.drop letters.length
    match sign with
    | '+' => changed? who fuel (permissions.lor bits) next
    | '-' => changed? who fuel without next
    | '=' => changed? who fuel ((permissions.land (allPermissions - who)).lor bits) next
    | _ => none

/-- The permissions after all clauses. -/
def clauses? (permissions : Nat) (text : Raw) : Option Nat :=
  (Text.splitAt (· == ',') text).foldlM
    (fun permissions clause =>
      let who := clause.takeWhile fun c => "ugoa".contains c
      let action := clause.drop who.length
      if action.isEmpty then none else changed? (whoBits who) action.length permissions action)
    permissions

/-- Tells or changes the mask. -/
def umask (arguments : List Raw) : Act Nat := do
  let (options, operands) ← options "S" arguments
  let mask := (← Act.frame).mask
  let setMask (mask : Nat) : Act Nat := do
    Act.modifyFrame fun frame => { frame with mask := mask }
    return 0
  match operands with
  | [] =>
    Act.printLine
      (if options.isEmpty then Decimal.padLeft 4 (digitsOf 8 mask) else triple (unmasked mask))
    return 0
  | text :: _ =>
    if text.head?.any Decimal.isDigit then
      if text.all (isDigitOf 8) then setMask (valueOf 8 text % (allPermissions + 1))
      else Act.fail (Raw.ofString "Illegal number: " ++ text)
    else match clauses? (unmasked mask) text with
      | some permissions => setMask (allPermissions - permissions)
      | none => Act.fail (Raw.ofString "Illegal mode: " ++ text)

end EditorBridge.Shell.Builtin
