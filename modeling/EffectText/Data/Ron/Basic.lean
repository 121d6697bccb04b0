import EffectText.Data.Json
import EffectText.Text.Identifier

/-! # RON

    A notation for lists, structures with named fields, strings and other values.
    Content files hold strings, lists and structures only. All other values are read so
    that they can be passed over, and nothing of them is kept.

    * A **structure** has fields in parentheses, perhaps after a name.
    * **Comments** run to the end of the line, or stand in nested brackets.
    * **Identifiers** are words of Unicode. After `r#` they may hold a few more
      characters.
-/

namespace EffectText

open Text

/-- A RON value. -/
inductive Ron where
  | string (s : String)
  | list (items : List Ron)
  /-- A structure, with its name if one is written. Without any field it may also
      be the value that holds nothing. -/
  | struct (name : Option String) (fields : List (String × Ron))
  /-- A value of any other kind. -/
  | other
  deriving Inhabited, Repr

namespace Ron

/-! ## Blanks and comments -/

/-- A blank between tokens. -/
def isSpace (c : Char) : Bool :=
  let n := c.toNat
  n == 0x20 || (9 ≤ n && n ≤ 13) || n == 0x85 || n == 0x200E || n == 0x200F ||
    n == 0x2028 || n == 0x2029

/-- What follows a comment in brackets that is `level` deep. -/
def afterComment : Nat → List Char → Option (List Char)
  | 0, s => some s
  | level + 1, '/' :: '*' :: rest => afterComment (level + 2) rest
  | level + 1, '*' :: '/' :: rest => afterComment level rest
  | level + 1, _ :: rest => afterComment (level + 1) rest
  | _ + 1, [] => none

/-- A comment in brackets. -/
def nestedComment : Reader Unit := do
  Reader.text "/*"
  let body : Reader Unit := fun s => (afterComment 1 s).map ((), ·)
  body

/-- A comment up to the end of its line. -/
def lineComment : Reader Unit := do
  Reader.text "//"
  Reader.skip (· != '\n')

/-- What may stand between tokens. -/
def blank : Reader Unit := do
  let space : Reader Unit := do
    let _ ← Reader.satisfy isSpace
  let _ ← Reader.many (space <|> nestedComment <|> lineComment)

/-! ## Identifiers -/

/-- A character that an identifier may start with. -/
def isLetter (c : Char) : Bool := c == '_' || startsIdentifier c

/-- A character of an identifier that is marked as raw. -/
def isRawNameChar (c : Char) : Bool :=
  continuesIdentifier c || c == '.' || c == '+' || c == '-'

/-- How strings and bytes start that look like identifiers. -/
def quoteStarts : List String :=
  ["b\"", "b\x27", "br#", "br\"", "r\"", "r#\"", "r##"]

/-- Fails where a string or bytes start. -/
def notQuoted : Reader Unit := fun s =>
  if quoteStarts.any (·.toList.isPrefixOf s) then none else some ((), s)

/-- An identifier. -/
def identifier : Reader String := do
  notQuoted
  let raw : Reader (List Char) := do
    Reader.text "r#"
    Reader.spanOne isRawNameChar
  let plain : Reader (List Char) := do
    let first ← Reader.satisfy isLetter
    return first :: (← Reader.span continuesIdentifier)
  return String.ofList (← raw <|> plain)

/-- Exactly this word, which is not the start of a longer one. -/
def word (w : String) : Reader Unit := do
  Reader.text w
  if ← Reader.looksAt (Reader.satisfy continuesIdentifier) then failure

end Ron

end EffectText
