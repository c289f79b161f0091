import EditorBridge.Shell.Raw

/-!
# Quoting for the shell

A text in single quotes, so that the shell reads it back; runs of single quotes stand in double
quotes.
-/

namespace EditorBridge.Shell.Builtin

/-- The parts of a text in quotes. The fuel is more than the length of the text. -/
def quotedParts (text : Raw) : Nat → Raw
  | 0 => []
  | fuel + 1 =>
    let part := text.takeWhile (· != '\'')
    let rest := text.drop part.length
    let quotes := rest.takeWhile (· == '\'')
    let first := '\'' :: part ++ ['\'']
    if quotes.isEmpty then first
    else
      let after := rest.drop quotes.length
      let both := first ++ '"' :: quotes ++ ['"']
      if after.isEmpty then both else both ++ quotedParts after fuel

/-- A text in quotes. -/
def singleQuoted (text : Raw) : Raw := quotedParts text (text.length + 1)

end EditorBridge.Shell.Builtin
