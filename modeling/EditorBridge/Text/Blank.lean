/-!
# Blank characters and the cuts of a text

The characters that count as white space, trimming, and the ways a text is cut into pieces: at
separators, into words and into lines. Everything works on lists of characters; the pieces of a
cut keep their order and hold no separator.
-/

namespace EditorBridge.Text

/-- A character with the Unicode property White_Space. -/
def isBlank (c : Char) : Bool :=
  let code := c.toNat
  (0x09 ≤ code && code ≤ 0x0D) || code == 0x20 || code == 0x85 || code == 0xA0 ||
    code == 0x1680 || (0x2000 ≤ code && code ≤ 0x200A) || code == 0x2028 || code == 0x2029 ||
    code == 0x202F || code == 0x205F || code == 0x3000

/-- No character of the text is visible. -/
def isAllBlank (text : List Char) : Bool := text.all isBlank

/-! ### Trimming -/

/-- Drops the longest suffix whose characters satisfy `drop`. -/
def dropEndWhile (drop : Char → Bool) (text : List Char) : List Char :=
  (text.reverse.dropWhile drop).reverse

/-- Drops the blanks at the end. -/
def trimEnd (text : List Char) : List Char := dropEndWhile isBlank text

/-- Drops the blanks at both ends. -/
def trim (text : List Char) : List Char := trimEnd (text.dropWhile isBlank)

/-- `trimEnd` on strings. -/
def trimEndString (text : String) : String := String.ofList (trimEnd text.toList)

/-- `trim` on strings. -/
def trimString (text : String) : String := String.ofList (trim text.toList)

/-! ### Cutting -/

/-- Cuts at every separator; `n` separators give `n + 1` pieces, empty ones included. -/
def splitAt (separator : Char → Bool) : List Char → List (List Char)
  | [] => [[]]
  | c :: rest =>
    if separator c then [] :: splitAt separator rest
    else match splitAt separator rest with
      | [] => [[c]]
      | piece :: pieces => (c :: piece) :: pieces

/-- The maximal runs of visible characters. -/
def words (text : List Char) : List (List Char) :=
  (splitAt isBlank text).filter (!·.isEmpty)

/-- The pieces between line feeds. -/
def lines (text : List Char) : List (List Char) := splitAt (· == '\n') text

/-- Puts the separator between the pieces. -/
def joinWith (separator : List Char) (pieces : List (List Char)) : List Char :=
  (pieces.intersperse separator).flatten

/-! ### Ends of a text -/

/-- What follows `start`, when the text begins with it. -/
def dropStart? : List Char → List Char → Option (List Char)
  | [], text => some text
  | _ :: _, [] => none
  | s :: start, c :: text => if s = c then dropStart? start text else none

/-- What precedes `ending`, when the text closes with it. -/
def dropEnding? (ending text : List Char) : Option (List Char) :=
  (dropStart? ending.reverse text.reverse).map List.reverse

end EditorBridge.Text
