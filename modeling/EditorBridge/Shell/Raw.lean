import EditorBridge.Decimal.Digits
import EditorBridge.Text.Utf8

/-!
# Raw text

The shell works on bytes. Raw text writes each byte as the character of the same number, so that
the special characters of the shell can be named, and no byte is lost.
-/

namespace EditorBridge.Shell

open Text

/-- Bytes, each as the character of its number. -/
abbrev Raw := List Char

namespace Raw

/-- The raw text of bytes. -/
def ofBytes (bytes : Bytes) : Raw := bytes.map fun byte => Char.ofNat byte.toNat

/-- The bytes of a raw text. -/
def toBytes (raw : Raw) : Bytes := raw.map fun c => UInt8.ofNat c.toNat

/-- The raw text of a string. -/
def ofString (text : String) : Raw := ofBytes (encode text)

/-- The string that raw text stands for; bytes that are no text are replaced. -/
def toString (raw : Raw) : String := decodeLossy raw.toBytes

/-- The raw text of a number. -/
def ofNat (n : Nat) : Raw := Decimal.ofNat n

/-- The raw text of an integer. -/
def ofInt (n : Int) : Raw := Decimal.ofInt n

/-- The byte is a space, a tab or one of the other blanks below them. -/
def isBlank (c : Char) : Bool := c == ' ' || ('\t' ≤ c && c ≤ '\r')

/-- Drops the line feeds at the end. -/
def chomp (raw : Raw) : Raw := (raw.reverse.dropWhile (· == '\n')).reverse

end Raw

/-- A character that a name can start with. -/
def isNameStart (c : Char) : Bool :=
  ('a' ≤ c && c ≤ 'z') || ('A' ≤ c && c ≤ 'Z') || c == '_'

/-- A character that a name can go on with. -/
def isNameChar (c : Char) : Bool := isNameStart c || Decimal.isDigit c

/-- A text that can name a variable. -/
def isName : Raw → Bool
  | [] => false
  | c :: rest => isNameStart c && rest.all isNameChar

end EditorBridge.Shell
