/-!
# UTF-8

Bytes are decoded by a machine that reads one byte at a time. A byte that cannot continue the
sequence begun before it ends that sequence, which then counts as one fault, and is read afresh.
Decoding either fails on a fault or puts the replacement character in its place.
-/

namespace EditorBridge.Text

/-- A sequence of bytes. -/
abbrev Bytes := List UInt8

/-- The bytes of a text. -/
def encode (text : String) : Bytes := text.toList.flatMap String.utf8EncodeChar

/-- Stands for bytes that are no text. -/
def replacement : Char := '\uFFFD'

/-- What the decoder waits for. -/
inductive Awaiting where
  /-- The first byte of a character. -/
  | lead
  /-- `count + 1` more bytes of a character, the next one between `low` and `high`. The value of
  the bytes read so far is `code`. -/
  | tail (count : Nat) (low high : UInt8) (code : Nat)
  deriving DecidableEq, Repr

/-- A decoded character, or a fault. -/
abbrev Piece := Option Char

/-- Reads the first byte of a character. -/
def readLead (byte : UInt8) : List Piece × Awaiting :=
  let code := byte.toNat
  if byte < 0x80 then ([some (Char.ofNat code)], .lead)
  else if byte < 0xC2 then ([none], .lead)
  else if byte < 0xE0 then ([], .tail 0 0x80 0xBF (code - 0xC0))
  else if byte = 0xE0 then ([], .tail 1 0xA0 0xBF 0)
  else if byte = 0xED then ([], .tail 1 0x80 0x9F 0xD)
  else if byte < 0xF0 then ([], .tail 1 0x80 0xBF (code - 0xE0))
  else if byte = 0xF0 then ([], .tail 2 0x90 0xBF 0)
  else if byte < 0xF4 then ([], .tail 2 0x80 0xBF (code - 0xF0))
  else if byte = 0xF4 then ([], .tail 2 0x80 0x8F 4)
  else ([none], .lead)

/-- Reads one byte. -/
def readByte (awaiting : Awaiting) (byte : UInt8) : List Piece × Awaiting :=
  match awaiting with
  | .lead => readLead byte
  | .tail count low high code =>
    if low ≤ byte ∧ byte ≤ high then
      let code := code * 64 + (byte.toNat - 0x80)
      match count with
      | 0 => ([some (Char.ofNat code)], .lead)
      | count + 1 => ([], .tail count 0x80 0xBF code)
    else
      let (pieces, next) := readLead byte
      (none :: pieces, next)

/-- Reads bytes to the end; a character left unfinished there is a fault. -/
def readBytes : Awaiting → Bytes → List Piece
  | .lead, [] => []
  | .tail .., [] => [none]
  | awaiting, byte :: bytes =>
    let (pieces, next) := readByte awaiting byte
    pieces ++ readBytes next bytes

/-- The characters and faults of a byte sequence. -/
def pieces (bytes : Bytes) : List Piece := readBytes .lead bytes

/-- The text with every fault replaced. -/
def decodeLossy (bytes : Bytes) : String :=
  String.ofList ((pieces bytes).map (·.getD replacement))

/-- The text, if there is no fault. -/
def decode? (bytes : Bytes) : Option String :=
  ((pieces bytes).mapM id).map String.ofList

end EditorBridge.Text
