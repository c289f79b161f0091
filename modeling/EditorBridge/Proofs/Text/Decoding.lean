import EditorBridge.Text.Utf8
import Mathlib.Algebra.Group.Nat.Defs
import Mathlib.Data.List.Basic

/-!
# What decoding keeps

A byte that continues no character starts the decoder afresh, whatever stood before it. So bytes can
be cut in front of every character, and text is found again in the midst of bytes that are none. The
other way round, bytes that are read without a fault are those of the text that was read.

## Main statements

`pieces_append`: reading can be cut in front of a byte that continues nothing.

`pieces_encode`: text is read as its characters.

`none_mem_pieces_iff`: a fault is read exactly in bytes that are not valid.

`decodeLossy_append_encode_append`: text is decoded as itself wherever it stands.

`encode_decodeLossy_iff`: the bytes of a decoded text are those that were decoded exactly when these
are valid.
-/

namespace EditorBridge.Text

/-! ### Bytes that continue a character -/

/-- The byte stands behind the first one of a character. -/
def Continues (byte : UInt8) : Prop := 0x80 ≤ byte ∧ byte ≤ 0xBF

namespace Awaiting

/-- The decoder waits for no other bytes than those that continue a character. -/
def Narrow : Awaiting → Prop
  | .lead => True
  | .tail _ low high _ => 0x80 ≤ low ∧ high ≤ 0xBF

/-- Where the decoder waits for no more than it has, bytes may end. -/
def faults : Awaiting → List Piece
  | .lead => []
  | .tail .. => [none]

end Awaiting

theorem readBytes_nil (awaiting : Awaiting) : readBytes awaiting [] = awaiting.faults := by
  cases awaiting <;> rfl

theorem readBytes_cons (awaiting : Awaiting) (byte : UInt8) (bytes : Bytes) :
    readBytes awaiting (byte :: bytes) =
      (readByte awaiting byte).1 ++ readBytes (readByte awaiting byte).2 bytes := by
  cases awaiting <;> rfl

/-- What a first byte is read as, by its number. -/
inductive Leads (byte : UInt8) : List Piece × Awaiting → Prop
  | single : byte.toNat < 0x80 → Leads byte ([some (Char.ofNat byte.toNat)], .lead)
  | fault : 0x80 ≤ byte.toNat → byte.toNat < 0xC2 ∨ 0xF4 < byte.toNat →
      Leads byte ([none], .lead)
  | ofTwo : 0xC2 ≤ byte.toNat → byte.toNat < 0xE0 →
      Leads byte ([], .tail 0 0x80 0xBF (byte.toNat - 0xC0))
  | ofThreeLeast : byte.toNat = 0xE0 → Leads byte ([], .tail 1 0xA0 0xBF 0)
  /-- Behind this byte some values are surrogates. -/
  | ofThreeBelow : byte.toNat = 0xED → Leads byte ([], .tail 1 0x80 0x9F 0xD)
  | ofThree : 0xE0 < byte.toNat → byte.toNat < 0xF0 → byte.toNat ≠ 0xED →
      Leads byte ([], .tail 1 0x80 0xBF (byte.toNat - 0xE0))
  | ofFourLeast : byte.toNat = 0xF0 → Leads byte ([], .tail 2 0x90 0xBF 0)
  | ofFour : 0xF0 < byte.toNat → byte.toNat < 0xF4 →
      Leads byte ([], .tail 2 0x80 0xBF (byte.toNat - 0xF0))
  | ofFourMost : byte.toNat = 0xF4 → Leads byte ([], .tail 2 0x80 0x8F 4)

theorem leads_readLead (byte : UInt8) : Leads byte (readLead byte) := by
  simp only [readLead, UInt8.lt_iff_toNat_lt, ← UInt8.toNat_inj, UInt8.reduceToNat]
  split
  next single => exact .single single
  split
  next => exact .fault (by omega) (by omega)
  split
  next => exact .ofTwo (by omega) (by omega)
  split
  next least => exact .ofThreeLeast least
  split
  next below => exact .ofThreeBelow below
  split
  next => exact .ofThree (by omega) (by omega) (by assumption)
  split
  next least => exact .ofFourLeast least
  split
  next => exact .ofFour (by omega) (by omega)
  split
  next most => exact .ofFourMost most
  next => exact .fault (by omega) (by omega)

theorem narrow_readLead (byte : UInt8) : (readLead byte).2.Narrow := by
  have leads := leads_readLead byte
  generalize readLead byte = read at leads
  cases leads <;> simp [Awaiting.Narrow]

theorem readByte_tail (count : Nat) (low high : UInt8) (code : Nat) (byte : UInt8) :
    readByte (.tail count low high code) byte =
      if low ≤ byte ∧ byte ≤ high then
        match count with
        | 0 => ([some (Char.ofNat (code * 64 + (byte.toNat - 0x80)))], .lead)
        | count + 1 => ([], .tail count 0x80 0xBF (code * 64 + (byte.toNat - 0x80)))
      else (none :: (readLead byte).1, (readLead byte).2) := by
  cases count <;> rfl

theorem narrow_readByte {awaiting : Awaiting} (narrow : awaiting.Narrow) (byte : UInt8) :
    (readByte awaiting byte).2.Narrow := by
  cases awaiting with
  | lead => exact narrow_readLead byte
  | tail count low high code =>
    rw [readByte_tail]
    split
    · cases count <;> simp [Awaiting.Narrow]
    · exact narrow_readLead byte

/-- A byte that continues nothing ends what was begun, and is read as if it came first. -/
theorem readByte_of_not_continues {awaiting : Awaiting} (narrow : awaiting.Narrow) {byte : UInt8}
    (fresh : ¬ Continues byte) :
    readByte awaiting byte = (awaiting.faults ++ (readLead byte).1, (readLead byte).2) := by
  rcases awaiting with _ | ⟨count, low, high, code⟩
  · rfl
  · have outside : ¬ (low ≤ byte ∧ byte ≤ high) := fun inside =>
      fresh ⟨UInt8.le_trans narrow.1 inside.1, UInt8.le_trans inside.2 narrow.2⟩
    simp [readByte, outside, Awaiting.faults]

/-- Reading can be cut in front of a byte that continues nothing, and at the end. -/
theorem readBytes_append {awaiting : Awaiting} (narrow : awaiting.Narrow) (front : Bytes)
    {back : Bytes} (fresh : ∀ byte ∈ back.head?, ¬ Continues byte) :
    readBytes awaiting (front ++ back) = readBytes awaiting front ++ pieces back := by
  induction front generalizing awaiting with
  | nil =>
    cases back with
    | nil => simp [pieces, readBytes]
    | cons byte back =>
      have first := readByte_of_not_continues narrow (fresh byte rfl)
      rw [List.nil_append, readBytes_nil, readBytes_cons, first, pieces, readBytes_cons,
        List.append_assoc]
      rfl
  | cons byte front ih =>
    rw [List.cons_append, readBytes_cons, readBytes_cons, ih (narrow_readByte narrow byte),
      List.append_assoc]

theorem pieces_append (front : Bytes) {back : Bytes}
    (fresh : ∀ byte ∈ back.head?, ¬ Continues byte) :
    pieces (front ++ back) = pieces front ++ pieces back :=
  readBytes_append (show Awaiting.lead.Narrow from trivial) front fresh

/-! ### The bytes of a character -/

/-- The byte with the six bits of a value above the lowest `6 * count` ones. -/
def continuation (count value : Nat) : UInt8 := UInt8.ofNat (value / 64 ^ count % 64 + 128)

/-- The last bytes of a character. -/
def tails : Nat → Nat → Bytes
  | 0, _ => []
  | count + 1, value => continuation count value :: tails count value

theorem toNat_continuation (count value : Nat) :
    (continuation count value).toNat = value / 64 ^ count % 64 + 128 := by
  have bound : value / 64 ^ count % 64 < 64 := Nat.mod_lt _ (by decide)
  rw [continuation, UInt8.toNat_ofNat']
  omega

/-- The first byte of a character that has others behind it, and how many these are. -/
def leading (value : Nat) : UInt8 × Nat :=
  if value < 0x800 then (UInt8.ofNat (value / 64 + 0xC0), 1)
  else if value < 0x10000 then (UInt8.ofNat (value / 4096 + 0xE0), 2)
  else (UInt8.ofNat (value / 262144 + 0xF0), 3)

theorem leading_eq_iff {value : Nat} (bound : value < 0x110000) (byte : UInt8) (count : Nat) :
    leading value = (byte, count) ↔
      (value < 0x800 ∧ byte.toNat = value / 64 + 0xC0 ∧ count = 1) ∨
      (0x800 ≤ value ∧ value < 0x10000 ∧ byte.toNat = value / 4096 + 0xE0 ∧ count = 2) ∨
      (0x10000 ≤ value ∧ byte.toNat = value / 262144 + 0xF0 ∧ count = 3) := by
  unfold leading
  split_ifs <;> simp only [Prod.mk.injEq, ← UInt8.toNat_inj, UInt8.toNat_ofNat'] <;> omega

theorem isValidChar_iff (value : Nat) :
    value.isValidChar ↔ value < 0xD800 ∨ 0xDFFF < value ∧ value < 0x110000 := Iff.rfl

theorem lt_of_isValidChar {value : Nat} (valid : value.isValidChar) : value < 0x110000 := by
  rw [isValidChar_iff] at valid
  omega

theorem utf8EncodeChar_eq (c : Char) :
    String.utf8EncodeChar c =
      if c.toNat < 0x80 then [UInt8.ofNat c.toNat]
      else (leading c.toNat).1 :: tails (leading c.toNat).2 c.toNat := by
  have bound := lt_of_isValidChar c.valid
  have value : c.val.toNat = c.toNat := rfl
  rw [value] at bound
  unfold String.utf8EncodeChar leading
  simp only [value, ← Nat.lt_succ_iff]
  -- The first byte has room for all the bits above those of the others.
  split_ifs with one two three
  · rfl
  · simp only [tails, continuation, Nat.pow_zero, Nat.div_one]
    rw [Nat.mod_eq_of_lt (by omega : c.toNat / 64 < 32)]
  · simp only [tails, continuation, Nat.pow_zero, Nat.pow_one, Nat.div_one]
    rw [Nat.mod_eq_of_lt (by omega : c.toNat / 4096 < 16)]
  · simp only [tails, continuation, Nat.pow_zero, Nat.pow_one, Nat.reducePow, Nat.div_one]
    rw [Nat.mod_eq_of_lt (by omega : c.toNat / 262144 < 8)]

theorem not_continues_leading {value : Nat} (bound : value < 0x110000) :
    ¬ Continues (leading value).1 := by
  rcases same : leading value with ⟨byte, count⟩
  rw [leading_eq_iff bound] at same
  simp only [Continues, UInt8.le_iff_toNat_le]
  intro inside
  simp at inside
  omega

/-! ### What the decoder can come to -/

/-- The decoder can come to a character of the value, having read the first bytes of it. -/
def Awaiting.Admits : Awaiting → Nat → Prop
  | .lead, _ => False
  | .tail count low high code, value =>
    value / 64 ^ (count + 1) = code ∧ low ≤ continuation count value ∧
      continuation count value ≤ high

theorem admits_tail_iff (count : Nat) (low high : UInt8) (code value : Nat) :
    (Awaiting.tail count low high code).Admits value ↔
      value / 64 ^ (count + 1) = code ∧ low.toNat ≤ value / 64 ^ count % 64 + 128 ∧
        value / 64 ^ count % 64 + 128 ≤ high.toNat := by
  simp only [Awaiting.Admits, UInt8.le_iff_toNat_le, toNat_continuation]

/-- What a first byte can still become are the characters that begin with it. -/
theorem admits_readLead_iff {byte : UInt8} {read : List Piece} {count : Nat} {low high : UInt8}
    {code : Nat} (begun : readLead byte = (read, .tail count low high code)) (value : Nat) :
    (Awaiting.tail count low high code).Admits value ↔
      value.isValidChar ∧ 0x80 ≤ value ∧ leading value = (byte, count + 1) := by
  have leads := begun ▸ leads_readLead byte
  rw [admits_tail_iff, isValidChar_iff]
  by_cases bound : value < 0x110000
  · rw [leading_eq_iff bound]
    cases leads <;> simp <;> omega
  · -- No first byte leads so far.
    have beyond : ¬ (value < 0xD800 ∨ 0xDFFF < value ∧ value < 0x110000) := by omega
    simp only [beyond, false_and, iff_false]
    cases leads <;> simp <;> omega

theorem readLead_cases (byte : UInt8) :
    (byte.toNat < 0x80 ∧ readLead byte = ([some (Char.ofNat byte.toNat)], .lead)) ∨
    readLead byte = ([none], .lead) ∨
    ∃ count low high code, readLead byte = ([], .tail count low high code) := by
  have leads := leads_readLead byte
  generalize readLead byte = read at leads
  cases leads with
  | single short => exact .inl ⟨short, rfl⟩
  | fault => exact .inr (.inl rfl)
  | ofTwo | ofThreeLeast | ofThreeBelow | ofThree | ofFourLeast | ofFour | ofFourMost =>
    exact .inr (.inr ⟨_, _, _, _, rfl⟩)

theorem readLead_of_lt {byte : UInt8} (short : byte.toNat < 0x80) :
    readLead byte = ([some (Char.ofNat byte.toNat)], .lead) :=
  if_pos (UInt8.lt_iff_toNat_lt.mpr short)

/-- The first byte of a long character begins it. -/
theorem exists_tail_of_leading {value : Nat} (valid : value.isValidChar) (long : 0x80 ≤ value) :
    ∃ count low high code, (leading value).2 = count + 1 ∧
      readLead (leading value).1 = ([], .tail count low high code) := by
  have bound := lt_of_isValidChar valid
  rcases same : leading value with ⟨byte, length⟩
  rw [leading_eq_iff bound] at same
  have leads := leads_readLead byte
  generalize readLead byte = read at leads
  cases leads with
  | single | fault => omega
  | ofTwo | ofThreeLeast | ofThreeBelow | ofThree | ofFourLeast | ofFour | ofFourMost =>
    exact ⟨_, _, _, _, by omega, rfl⟩

/-- One byte more of a character leaves the same character to come to. -/
theorem Awaiting.Admits.next {count : Nat} {low high : UInt8} {code value : Nat}
    (admits : (Awaiting.tail (count + 1) low high code).Admits value) :
    (Awaiting.tail count 0x80 0xBF
      (code * 64 + ((continuation (count + 1) value).toNat - 0x80))).Admits value := by
  rw [admits_tail_iff] at admits ⊢
  have above : value / 64 ^ (count + 1) / 64 = code := by
    rw [Nat.div_div_eq_div_mul, ← Nat.pow_succ, admits.1]
  have inside : value / 64 ^ count % 64 < 64 := Nat.mod_lt _ (by decide)
  rw [toNat_continuation]
  simp
  omega

theorem value_of_admits {low high : UInt8} {code value : Nat}
    (admits : (Awaiting.tail 0 low high code).Admits value) :
    code * 64 + ((continuation 0 value).toNat - 0x80) = value := by
  rw [admits_tail_iff] at admits
  rw [toNat_continuation]
  simp at admits ⊢
  omega

/-! ### Text is read as its characters -/

theorem readBytes_tails {count : Nat} {low high : UInt8} {code value : Nat}
    (admits : (Awaiting.tail count low high code).Admits value) (rest : Bytes) :
    readBytes (.tail count low high code) (tails (count + 1) value ++ rest) =
      some (Char.ofNat value) :: pieces rest := by
  induction count generalizing low high code with
  | zero =>
    rw [tails, tails, List.cons_append, readBytes_cons, readByte_tail, if_pos admits.2,
      value_of_admits admits]
    rfl
  | succ count ih =>
    rw [tails, List.cons_append, readBytes_cons, readByte_tail, if_pos admits.2]
    exact ih admits.next

theorem pieces_encodeChar_append (c : Char) (rest : Bytes) :
    pieces (String.utf8EncodeChar c ++ rest) = some c :: pieces rest := by
  have valid : c.toNat.isValidChar := c.valid
  rw [utf8EncodeChar_eq]
  split
  next short =>
    have number : (UInt8.ofNat c.toNat).toNat = c.toNat := by
      rw [UInt8.toNat_ofNat']
      omega
    have single := readLead_of_lt (number.symm ▸ short)
    rw [List.cons_append, pieces, readBytes_cons]
    simp only [readByte, single, number, Char.ofNat_toNat]
    rfl
  next long =>
    obtain ⟨count, low, high, code, length, begun⟩ := exists_tail_of_leading valid (by omega)
    have admits := (admits_readLead_iff begun c.toNat).mpr
      ⟨valid, by omega, Prod.ext rfl length⟩
    rw [List.cons_append, pieces, readBytes_cons, length]
    simp only [readByte, begun, readBytes_tails admits, Char.ofNat_toNat]
    rfl

theorem pieces_encode_append (text : String) (rest : Bytes) :
    pieces (encode text ++ rest) = text.toList.map some ++ pieces rest := by
  unfold encode
  induction text.toList with
  | nil => rfl
  | cons c chars ih =>
    rw [List.flatMap_cons, List.append_assoc, pieces_encodeChar_append, ih]
    rfl

theorem pieces_encode (text : String) : pieces (encode text) = text.toList.map some := by
  have whole := pieces_encode_append text []
  rwa [List.append_nil, show pieces [] = [] from rfl, List.append_nil] at whole

theorem not_continues_head_encode {text : String} (present : text ≠ "") (rest : Bytes) :
    ∀ byte ∈ (encode text ++ rest).head?, ¬ Continues byte := by
  obtain ⟨c, chars, same⟩ := List.exists_cons_of_ne_nil (mt String.toList_eq_nil_iff.mp present)
  have valid : c.toNat.isValidChar := c.valid
  rw [encode, same, List.flatMap_cons, utf8EncodeChar_eq]
  split
  next short =>
    rintro byte ⟨⟩ ⟨low, -⟩
    rw [UInt8.le_iff_toNat_le, UInt8.toNat_ofNat'] at low
    simp at low
    omega
  next =>
    rintro byte ⟨⟩
    exact not_continues_leading (lt_of_isValidChar valid)

/-! ### What is read without a fault is text -/

/-- The bytes were read since the last character, and begin every character that the decoder can
come to. -/
def Awaiting.Holds : Awaiting → Bytes → Prop
  | .lead, held => held = []
  | .tail count low high code, held => ∀ value, (Awaiting.tail count low high code).Admits value →
      value.isValidChar ∧ String.utf8EncodeChar (Char.ofNat value) = held ++ tails (count + 1) value

theorem utf8EncodeChar_ofNat {value : Nat} (valid : value.isValidChar) :
    String.utf8EncodeChar (Char.ofNat value) =
      if value < 0x80 then [UInt8.ofNat value]
      else (leading value).1 :: tails (leading value).2 value := by
  have number : (Char.ofNat value).toNat = value := by
    rw [Char.ofNat, dif_pos valid]
    rfl
  rw [utf8EncodeChar_eq, number]

section

variable {low high byte : UInt8} (narrow : 0x80 ≤ low ∧ high ≤ 0xBF)
  (inside : low ≤ byte ∧ byte ≤ high)

include narrow inside

theorem bits_lt : 0x80 ≤ byte.toNat ∧ byte.toNat - 0x80 < 64 := by
  simp only [UInt8.le_iff_toNat_le] at narrow inside
  simp at narrow
  omega

/-- A value with these bits was admitted before its byte was read. -/
theorem admits_of_bits {count code value : Nat}
    (bits : value / 64 ^ count = code * 64 + (byte.toNat - 0x80)) :
    (Awaiting.tail count low high code).Admits value ∧ continuation count value = byte := by
  obtain ⟨least, most⟩ := bits_lt narrow inside
  have six : value / 64 ^ count % 64 + 128 = byte.toNat := by omega
  have same : continuation count value = byte := by
    rw [← UInt8.toNat_inj, toNat_continuation, six]
  refine ⟨⟨?_, same ▸ inside⟩, same⟩
  rw [Nat.pow_succ, ← Nat.div_div_eq_div_mul, bits]
  omega

end

/-- A byte that brings no fault completes a character or is held with the others. -/
theorem Awaiting.Holds.readByte {awaiting : Awaiting} {held : Bytes} (holds : awaiting.Holds held)
    (narrow : awaiting.Narrow) {byte : UInt8} (faultless : none ∉ (readByte awaiting byte).1) :
    ∃ (chars : List Char) (later : Bytes), (Text.readByte awaiting byte).1 = chars.map some ∧
      (Text.readByte awaiting byte).2.Holds later ∧
      held ++ [byte] = chars.flatMap String.utf8EncodeChar ++ later := by
  rcases awaiting with _ | ⟨count, low, high, code⟩
  · obtain rfl : held = [] := holds
    simp only [Text.readByte] at faultless ⊢
    rcases readLead_cases byte with ⟨short, begun⟩ | begun | ⟨count, low, high, code, begun⟩
    · refine ⟨[Char.ofNat byte.toNat], [], by rw [begun]; rfl, by rw [begun]; rfl, ?_⟩
      have valid : byte.toNat.isValidChar := .inl (by omega)
      simp [utf8EncodeChar_ofNat valid, short]
    · simp [begun] at faultless
    · refine ⟨[], [byte], by rw [begun]; rfl, ?_, rfl⟩
      rw [begun]
      intro value admits
      obtain ⟨valid, long, first⟩ := (admits_readLead_iff begun value).mp admits
      refine ⟨valid, ?_⟩
      rw [utf8EncodeChar_ofNat valid, if_neg (by omega), first]
      rfl
  rw [readByte_tail] at faultless ⊢
  by_cases inside : low ≤ byte ∧ byte ≤ high
  · simp only [if_pos inside]
    cases count with
    | zero =>
      -- The value is complete, and it is one of those that were admitted.
      have bits (value : Nat) : value / 64 ^ 0 = value := Nat.div_one value
      obtain ⟨admits, last⟩ := admits_of_bits narrow inside (bits _)
      obtain ⟨-, written⟩ := holds _ admits
      refine ⟨[Char.ofNat (code * 64 + (byte.toNat - 0x80))], [], rfl, rfl, ?_⟩
      rw [List.flatMap_singleton, written, tails, tails, last, List.append_nil]
    | succ count =>
      refine ⟨[], held ++ [byte], rfl, fun value later => ?_, rfl⟩
      obtain ⟨admits, next⟩ := admits_of_bits narrow inside later.1
      obtain ⟨valid, written⟩ := holds value admits
      rw [tails, next] at written
      exact ⟨valid, by rw [written, List.append_assoc, List.singleton_append]⟩
  · simp [if_neg inside] at faultless

/-- What is read to the end without a fault is the text of the bytes. -/
theorem Awaiting.Holds.readBytes {awaiting : Awaiting} {held : Bytes} (holds : awaiting.Holds held)
    (narrow : awaiting.Narrow) {bytes : Bytes} (faultless : none ∉ readBytes awaiting bytes) :
    ∃ chars : List Char, Text.readBytes awaiting bytes = chars.map some ∧
      held ++ bytes = chars.flatMap String.utf8EncodeChar := by
  induction bytes generalizing awaiting held with
  | nil =>
    cases awaiting with
    | lead =>
      obtain rfl : held = [] := holds
      exact ⟨[], rfl, rfl⟩
    | tail => simp [Text.readBytes] at faultless
  | cons byte bytes ih =>
    rw [readBytes_cons, List.mem_append, not_or] at faultless
    obtain ⟨first, later, read, holdsLater, front⟩ := holds.readByte narrow faultless.1
    obtain ⟨rest, readRest, back⟩ := ih holdsLater (narrow_readByte narrow byte) faultless.2
    refine ⟨first ++ rest, ?_, ?_⟩
    · rw [readBytes_cons, read, readRest, List.map_append]
    · rw [List.flatMap_append, ← back, ← List.append_assoc, ← front, List.append_assoc]
      rfl

/-! ### Valid bytes -/

/-- Bytes are valid when they are those of a text. -/
theorem isValidUTF8_iff (bytes : Bytes) :
    bytes.toByteArray.IsValidUTF8 ↔ ∃ text, bytes = encode text := by
  constructor
  · rintro ⟨chars, same⟩
    have written : bytes = chars.flatMap String.utf8EncodeChar := List.toByteArray_inj.mp same
    exact ⟨String.ofList chars, by rw [encode, String.toList_ofList, written]⟩
  · rintro ⟨text, rfl⟩
    exact ⟨text.toList, rfl⟩

/-- A fault is read exactly in bytes that are not valid. -/
theorem none_mem_pieces_iff (bytes : Bytes) :
    none ∈ pieces bytes ↔ ¬ bytes.toByteArray.IsValidUTF8 := by
  rw [isValidUTF8_iff]
  constructor
  · rintro fault ⟨text, rfl⟩
    simp [pieces_encode] at fault
  · intro invalid
    by_contra faultless
    have holds : Awaiting.lead.Holds [] := rfl
    obtain ⟨chars, -, written⟩ := holds.readBytes trivial faultless
    exact invalid ⟨String.ofList chars, by rw [encode, String.toList_ofList, ← written]; rfl⟩

theorem toList_decodeLossy (bytes : Bytes) :
    (decodeLossy bytes).toList = (pieces bytes).map (·.getD replacement) :=
  String.toList_ofList

theorem decodeLossy_encode (text : String) : decodeLossy (encode text) = text := by
  apply String.toList_inj.mp
  simp [toList_decodeLossy, pieces_encode, Function.comp_def]

/-- Text in the midst of other bytes is decoded as itself, and they as without it. -/
theorem decodeLossy_append_encode_append (front : Bytes) {text : String} (present : text ≠ "")
    (back : Bytes) :
    decodeLossy (front ++ encode text ++ back) = decodeLossy front ++ text ++ decodeLossy back := by
  apply String.toList_inj.mp
  have cut := pieces_append front (not_continues_head_encode present back)
  simp only [String.toList_append, toList_decodeLossy, List.append_assoc, cut,
    pieces_encode_append, List.map_append]
  simp [Function.comp_def]

theorem encode_decodeLossy_iff (bytes : Bytes) :
    encode (decodeLossy bytes) = bytes ↔ bytes.toByteArray.IsValidUTF8 := by
  rw [isValidUTF8_iff]
  constructor
  · intro same
    exact ⟨decodeLossy bytes, same.symm⟩
  · rintro ⟨text, rfl⟩
    rw [decodeLossy_encode]

theorem encode_injective {first second : String} (same : encode first = encode second) :
    first = second := by
  rw [← decodeLossy_encode first, same, decodeLossy_encode]

theorem mapM_id_eq_some_iff (read : List Piece) (chars : List Char) :
    read.mapM id = some chars ↔ read = chars.map some := by
  induction read generalizing chars with
  | nil => cases chars <;> simp
  | cons piece read ih =>
    cases piece with
    | none => cases chars <;> simp [List.mapM_cons]
    | some c => cases chars <;> simp [List.mapM_cons, Option.bind_eq_some_iff, ih, and_comm]

/-- Strict decoding gives the text that the bytes are those of. -/
theorem decode?_eq_some_iff (bytes : Bytes) (text : String) :
    decode? bytes = some text ↔ bytes = encode text := by
  constructor
  · intro decoded
    obtain ⟨chars, read, rfl⟩ := Option.map_eq_some_iff.mp decoded
    have whole : pieces bytes = chars.map some := (mapM_id_eq_some_iff ..).mp read
    have faultless : none ∉ pieces bytes := by
      rw [whole]
      simp
    -- Without a fault, what is written again is what was read.
    have valid := not_not.mp (mt (none_mem_pieces_iff bytes).mpr faultless)
    rw [← (encode_decodeLossy_iff bytes).mpr valid]
    congr 1
    apply String.toList_inj.mp
    simp [toList_decodeLossy, whole, Function.comp_def]
  · rintro rfl
    have read := (mapM_id_eq_some_iff (pieces (encode text)) text.toList).mpr (pieces_encode text)
    rw [decode?, read, Option.map_some, String.ofList_toList]

theorem replacement_mem_decodeLossy {bytes : Bytes}
    (invalid : ¬ bytes.toByteArray.IsValidUTF8) : replacement ∈ (decodeLossy bytes).toList := by
  rw [toList_decodeLossy]
  exact List.mem_map.mpr ⟨none, (none_mem_pieces_iff bytes).mpr invalid, rfl⟩

end EditorBridge.Text
