import EffectText.Text.Blank
import EffectText.Text.Brackets

/-! # Clauses, patterns and parameters

    A statement is written as a main clause with conditions in angle brackets.
    A clause holds parameters in square brackets.

    * The **main clause** of a text is what is left without its conditions, tidied.
    * The **pattern** of a clause is the clause with every parameter emptied, so
      that each leaves a **marker** `[]`.
    * **Filling** a pattern puts parameters into its markers, from left to right.

    A bracket without a partner is an ordinary character everywhere. Nothing here
    can fail: a badly bracketed text has fewer parameters or conditions.

    Each operation is defined on lists of characters and offered on strings.
-/

namespace EffectText.Clause

open Text

/-! ## On lists of characters -/

/-- The main clause: the text outside its conditions, tidied. -/
def mainChars (text : List Char) : List Char :=
  tidy (literals (segments .angle text))

/-- The texts of the conditions, trimmed, in order. -/
def conditionChars (text : List Char) : List (List Char) :=
  (groups (segments .angle text)).map trim

/-- The pattern of a clause. -/
def patternChars (clause : List Char) : List Char :=
  emptied .square (segments .square clause)

/-- The parameters of a clause, in order. -/
def paramChars (clause : List Char) : List (List Char) :=
  groups (segments .square clause)

/-- A pattern with its markers filled from left to right. A marker without a
    parameter stays empty, and parameters without a marker are dropped. -/
def fillChars : List Char → List (List Char) → List Char
  | '[' :: ']' :: rest, params =>
    '[' :: (params.headD [] ++ ']' :: fillChars rest params.tail)
  | c :: rest, params => c :: fillChars rest params
  | [], _ => []

/-! ## On strings -/

/-- **Main clause** of a text: its conditions removed, its blanks tidied. -/
def main (text : String) : String := String.ofList (mainChars text.toList)

/-- **Conditions** of a text: what stands in its angle brackets, trimmed. -/
def conditions (text : String) : List String :=
  (conditionChars text.toList).map String.ofList

/-- **Pattern** of a clause: every parameter emptied. -/
def pattern (clause : String) : String := String.ofList (patternChars clause.toList)

/-- **Parameters** of a clause: what stands in its square brackets. -/
def params (clause : String) : List String :=
  (paramChars clause.toList).map String.ofList

/-- Pattern and parameters of the main clause of a text. -/
def extract (text : String) : String × List String :=
  (pattern (main text), params (main text))

/-- **Filling**: the markers of a pattern, from left to right, around parameters. -/
def fill (pattern : String) (params : List String) : String :=
  String.ofList (fillChars pattern.toList (params.map String.toList))

end EffectText.Clause
