/-! # Lines

    The lines of a text end with a line feed, which the last one may lack. A carriage
    return in front of the line feed belongs to the end of the line.
-/

namespace EffectText.Text

/-- The rest of a line that `line` starts, in reverse, and the lines after it. -/
def linesFrom (line : List Char) : List Char → List (List Char)
  | [] => if line.isEmpty then [] else [line.reverse]
  | c :: rest =>
    if c = '\n' then
      let line := if line.head? = some '\r' then line.tail else line
      line.reverse :: linesFrom [] rest
    else linesFrom (c :: line) rest

/-- **Lines** of a text. -/
def lines (text : String) : List String := (linesFrom [] text.toList).map String.ofList

end EffectText.Text
