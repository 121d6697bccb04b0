import EffectText.Text.Extending
import EffectText.Text.Unprintable

/-! # Quoted text

    A quoted text stands between double quotes and shows every character that a
    reader could miss:

    * NUL, tab, line feed, carriage return, the double quote and the backslash
      are written with a backslash and a letter of their own;
    * characters without a visible form, and characters that would merge with
      the one before, are written `\u`, `{`, the code point in hexadecimal, `}`;
    * all other characters stand for themselves.
-/

namespace EffectText.Text

/-- The digits of a number to the base sixteen, in lower case. -/
def hexadecimal (n : Nat) : List Char := Nat.toDigits 16 n

/-- One character as it is written in a quoted text. -/
def quoteChar (c : Char) : List Char :=
  if c = '\x00' then ['\\', '0']
  else if c = '\t' then ['\\', 't']
  else if c = '\n' then ['\\', 'n']
  else if c = '\r' then ['\\', 'r']
  else if c = '"' then ['\\', '"']
  else if c = '\\' then ['\\', '\\']
  else if isExtending c || isUnprintable c then
    ['\\', 'u', '{'] ++ hexadecimal c.toNat ++ ['}']
  else [c]

/-- **Quoted text**: `s` between double quotes, with every character that a
    reader could miss written out. -/
def quoted (s : String) : String :=
  String.ofList ('"' :: s.toList.flatMap quoteChar ++ ['"'])

end EffectText.Text
