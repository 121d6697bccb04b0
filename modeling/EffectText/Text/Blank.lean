/-! # Blank characters, words and tidy text

    * **Blanks** are the twenty-five characters of the Unicode property
      `White_Space`.
    * **Words** are the maximal runs of characters that are not blank.
    * **Tidy text** is its words joined by single spaces: no blank stands at
      either end, and every blank inside is one space.

    All functions work on lists of characters, so that lemmas go by induction
    on the text.
-/

namespace EffectText.Text

/-! ## Blanks -/

/-- **Blank**: a character of the Unicode property `White_Space`. -/
def isBlank (c : Char) : Bool :=
  let n := c.toNat
  (9 ≤ n && n ≤ 13) || n == 0x20 || n == 0x85 || n == 0xA0 || n == 0x1680 ||
    (0x2000 ≤ n && n ≤ 0x200A) || n == 0x2028 || n == 0x2029 || n == 0x202F ||
    n == 0x205F || n == 0x3000

/-- The text without the blanks at its start. -/
def trimStart (s : List Char) : List Char := s.dropWhile isBlank

/-- The text without the blanks at its end. -/
def trimEnd : List Char → List Char
  | [] => []
  | c :: rest =>
    match trimEnd rest with
    | [] => if isBlank c then [] else [c]
    | kept => c :: kept

/-- The text without the blanks at either end. -/
def trim (s : List Char) : List Char := trimEnd (trimStart s)

/-- A text is blank when all its characters are. -/
def allBlank (s : List Char) : Bool := s.all isBlank

/-! ## Words -/

/-- The pieces between blanks, in order. A blank at an end, or beside another
    blank, leaves an empty piece. -/
def pieces : List Char → List (List Char)
  | [] => [[]]
  | c :: rest =>
    if isBlank c then [] :: pieces rest
    else
      match pieces rest with
      | [] => [[c]]
      | piece :: others => (c :: piece) :: others

/-- **Words**: the pieces between blanks that are not empty. -/
def words (s : List Char) : List (List Char) :=
  (pieces s).filter (fun piece => !piece.isEmpty)

/-- Words joined by single spaces. -/
def unwords : List (List Char) → List Char
  | [] => []
  | [word] => word
  | word :: others => word ++ ' ' :: unwords others

/-- **Tidy text**: the words of `s`, joined by single spaces. -/
def tidy (s : List Char) : List Char := unwords (words s)

end EffectText.Text
