/-! # Text without terminal controls

    A terminal does not show all characters of a text: it acts on control characters,
    and on the sequences that an escape character starts. The text without them holds
    what is shown, and the characters that only move on: tabs, line feeds, form feeds
    and carriage returns.

    Where a moving character stands inside a sequence, what follows it is shown up to
    the next control character, and there the sequence goes on.
-/

namespace EffectText.Text

/-! ## Characters -/

/-- Whether a character only moves on. -/
def isMove (c : Char) : Bool := c == '\t' || c == '\n' || c == '\x0c' || c == '\r'

/-- Whether a character may be shown: all but the other controls of ASCII. -/
def isShowable (c : Char) : Bool := isMove c || (0x20 ≤ c.toNat && c != '\x7f')

/-! ## Sequences -/

/-- **State** of a terminal: what the next character belongs to. -/
inductive TerminalState where
  /-- Text that is shown. -/
  | plain
  /-- A sequence of which only the escape character has been read. -/
  | escape
  /-- A sequence that ends with the next character that is no punctuation. -/
  | short
  /-- A sequence with parameters, which ends with a letter. -/
  | control
  /-- A string that only an escape or a cancelling character ends. -/
  | string
  /-- A string that the bell ends as well. -/
  | title
  deriving DecidableEq, Repr

namespace TerminalState

/-- The state after an escape character and this one. -/
def afterEscape (c : Char) : TerminalState :=
  let n := c.toNat
  if c == '[' then .control
  else if c == ']' then .title
  else if c == 'P' || c == 'X' || c == '^' || c == '_' then .string
  else if 0x20 ≤ n && n ≤ 0x2F then .short
  else if 0x30 ≤ n && n ≤ 0x7E then .plain
  else .escape

/-- The state after a character. -/
def next (state : TerminalState) (c : Char) : TerminalState :=
  let n := c.toNat
  if n == 0x1B then .escape
  else if n == 0x18 || n == 0x1A then .plain
  else
    match state with
    | .plain => .plain
    | .escape => afterEscape c
    | .short => if 0x30 ≤ n && n ≤ 0x7E then .plain else .short
    | .control => if 0x40 ≤ n && n ≤ 0x7E then .plain else .control
    | .string => .string
    | .title => if n == 0x07 then .plain else .title

/-- Whether a character is shown in a state. Inside sequences only those that move on
    are, and inside strings none is. -/
def shows (state : TerminalState) (c : Char) : Bool :=
  match state with
  | .plain => isShowable c
  | .escape | .short | .control => isMove c
  | .string | .title => false

end TerminalState

/-! ## Texts -/

/-- What is shown of a text from a state on. While text is `showing`, all characters
    that may be shown are; one beyond ASCII also ends a sequence that was interrupted. -/
def shownFrom (showing : Bool) (state : TerminalState) : List Char → List Char
  | [] => []
  | c :: rest =>
    if (showing && isShowable c) || state.shows c then
      c :: shownFrom true (if c.toNat < 0x80 then state else .plain) rest
    else shownFrom false (state.next c) rest

/-- **Shown text**: a text without terminal controls. -/
def shownText (text : String) : String :=
  String.ofList (shownFrom true .plain text.toList)

end EffectText.Text
