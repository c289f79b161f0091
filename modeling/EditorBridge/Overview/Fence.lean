import EditorBridge.Text.Blank

/-!
# Fenced blocks

An error text is shown verbatim inside a Markdown code fence. The fence is longer than every run
of backticks in the text, so that no line of the text can close the block.
-/

namespace EditorBridge.Fence

/-- The character that fences are made of. -/
def mark : Char := '\x60'

/-- The length of the longest run of fence characters. -/
def longestRun (text : List Char) : Nat :=
  ((Text.splitAt (· != mark) text).map List.length).foldl max 0

/-- The length of the fence around a text. -/
def width (text : List Char) : Nat := max 3 (longestRun text + 1)

/-- The fence around a text. -/
def around (text : List Char) : List Char := List.replicate (width text) mark

/-- The text with a line feed at its end. -/
def closeLine (text : List Char) : List Char :=
  if text.getLast? = some '\n' then text else text ++ ['\n']

/-- The block: the fence, the text with its last line closed, the fence. -/
def block (text : List Char) : List Char :=
  around text ++ '\n' :: (closeLine text ++ around text ++ ['\n'])

/-- `block` on strings. -/
def render (text : String) : String := String.ofList (block text.toList)

end EditorBridge.Fence
