/-! # Styled text for terminals

    A **style** is a list of display codes. Styled text starts with the codes and
    ends with a reset. A reset inside the text would end the style too early, so the
    codes are repeated after it.
-/

namespace EffectText

/-- **Style**: the display codes of a terminal, in the order in which they are
    written. -/
structure Style where
  codes : List Nat
  deriving DecidableEq, Repr

namespace Style

def heading : Style := { codes := [4, 93] }
def bold : Style := { codes := [1] }
def boldGreen : Style := { codes := [1, 32] }
def boldRed : Style := { codes := [1, 31] }
def brightGreen : Style := { codes := [92] }
def brightRed : Style := { codes := [91] }
def cyan : Style := { codes := [36] }
def dimmed : Style := { codes := [2] }

/-- What switches every style off. -/
def reset : List Char := ['\x1b', '[', '0', 'm']

/-- What switches a style on. -/
def start (style : Style) : List Char :=
  ['\x1b', '['] ++ (";".intercalate (style.codes.map toString)).toList ++ ['m']

/-- A text with `again` after every reset in it. -/
def afterResets (again : List Char) : List Char → List Char
  | '\x1b' :: '[' :: '0' :: 'm' :: rest => reset ++ again ++ afterResets again rest
  | c :: rest => c :: afterResets again rest
  | [] => []

/-- **Styled text**; the text itself where colors are off. -/
def paint (style : Style) (colors : Bool) (text : String) : String :=
  if colors then
    String.ofList (style.start ++ afterResets style.start text.toList ++ reset)
  else text

end Style

end EffectText
