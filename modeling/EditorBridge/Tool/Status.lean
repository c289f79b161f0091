import EditorBridge.Decimal.Digits
import EditorBridge.Text.Blank

/-!
# The version of the tool

A version is a non-empty list of 32-bit numbers. Versions are ordered as if the shorter list went
on with zeros, while two versions are equal only when they list the same numbers: `2` and `2.0`
compare equal and are different. Text is read leniently, up to the first character that cannot
belong to a version. The tool is asked for its version, and what it prints is classified.
-/

namespace EditorBridge

/-- The numbers of a release, most significant first. -/
structure Version where
  first : UInt32
  rest : List UInt32
  deriving DecidableEq, Repr

namespace Version

/-- All numbers of the version. -/
def parts (version : Version) : List UInt32 := version.first :: version.rest

/-- The version with the given numbers, if there are any. -/
def ofParts? : List UInt32 → Option Version
  | [] => none
  | first :: rest => some ⟨first, rest⟩

/-! ### Order -/

/-- Lexicographic order of two lists, the shorter one continued with zeros. -/
def comparePadded : List UInt32 → List UInt32 → Ordering
  | [], [] => .eq
  | left :: lefts, [] => (compare left 0).then (comparePadded lefts [])
  | [], right :: rights => (compare 0 right).then (comparePadded [] rights)
  | left :: lefts, right :: rights => (compare left right).then (comparePadded lefts rights)

/-- The order of releases. -/
def order (left right : Version) : Ordering := comparePadded left.parts right.parts

instance : Ord Version := ⟨order⟩

/-- Sorts by release, versions that compare equal in their given order. -/
def sort (versions : List Version) : List Version :=
  versions.mergeSort (fun left right => order left right != .gt)

/-! ### Text -/

/-- The numbers joined by dots. -/
def text (version : Version) : String :=
  String.ofList (Text.joinWith ['.'] (version.parts.map (Decimal.ofNat ·.toNat)))

/-- A non-empty run of digits whose value fits into 32 bits. -/
def segment? (digits : List Char) : Option UInt32 :=
  if digits.isEmpty then none
  else
    let value := Decimal.value digits
    if value < Decimal.twoTo 32 then some (UInt32.ofNat value) else none

/-- A character of a dotted number. -/
def isDotted (c : Char) : Bool := Decimal.isDigit c || c == '.'

/-- The text without one `v` in front. -/
def dropMark : List Char → List Char
  | 'v' :: rest => rest
  | text => text

/-- Reads the dotted number at the start of a text, after blanks and one `v`, without the dots
that end it. -/
def ofChars? (text : List Char) : Option Version := do
  let run := (dropMark (Text.trim text)).takeWhile isDotted
  let core := Text.dropEndWhile (· == '.') run
  let parts ← (Text.splitAt (· == '.') core).mapM segment?
  ofParts? parts

/-- `ofChars?` on strings. -/
def parse? (text : String) : Option Version := ofChars? text.toList

/-- The version that a program prints about itself: the last word that reads as one in the first
line that is not blank. -/
def ofOutput? (output : String) : Option Version := do
  let line ← (Text.lines output.toList).find? (!Text.isAllBlank ·)
  (Text.words line).reverse.findSome? ofChars?

/-- The oldest release of the tool whose command line is understood. -/
def minimumSupported : Version := ⟨2, [0]⟩

end Version

/-! ### What a probe says -/

/-- The verdict of asking the tool for its version. -/
inductive ToolStatus where
  /-- The tool answered; the version is missing when the answer names none. -/
  | installed (version : Option Version) (raw : String)
  /-- The tool answered with a release older than the oldest supported one. -/
  | outdated (found minimum : Version)
  /-- The tool could not be run. -/
  | notInstalled (reason : String)
  deriving DecidableEq, Repr

/-- Classifies what the tool printed. -/
def ToolStatus.ofOutput (output : String) : ToolStatus :=
  match Version.ofOutput? output with
  | none => .installed none (Text.trimString output)
  | some found =>
    if Version.order found .minimumSupported = .lt then .outdated found .minimumSupported
    else .installed (some found) (Text.trimString output)

end EditorBridge
