import EffectText.Number.Single
import EffectText.Text.Reader

/-! # Reading numbers from text

    * `Reader.decimal` reads digits with an optional point and an optional
      power of ten.
    * `Single.ofText?` reads a whole text as a single-precision number.
    * `int32?` reads a whole text as an integer of thirty-two bits.

    Only ASCII digits count.
-/

namespace EffectText

open Text

/-! ## Decimals -/

namespace Reader

/-- A sign: whether a minus was read. Without a sign the number is positive. -/
def sign : Reader Bool :=
  (do char '-'; return true) <|> (do char '+'; return false) <|> return false

/-- A power of ten: `e`, an optional sign and at least one digit. -/
def power : Reader Int := do
  let _ ← satisfy fun c => c == 'e' || c == 'E'
  let negative ← sign
  let digits ← spanOne isAsciiDigit
  let n := Decimal.natFrom 0 digits
  return if negative then -(n : Int) else n

/-- A decimal without its sign: digits on at least one side of an optional point,
    then an optional power of ten. -/
def decimal (negative : Bool) : Reader Decimal := do
  let whole ← span isAsciiDigit
  let fraction ← (do char '.'; span isAsciiDigit) <|> return []
  if whole.isEmpty && fraction.isEmpty then failure
  let shift ← optional power
  return (Decimal.ofDigits negative whole fraction).shift (shift.getD 0)

end Reader

/-! ## Single-precision numbers -/

namespace Single

/-- A letter in lower case, if it is an ASCII letter. -/
def lowered (s : List Char) : List Char := s.map Char.toLower

/-- The number that a text spells: a sign, then a decimal or, in letters of
    either case, `inf`, `infinity` or `nan`. -/
def ofText? (s : String) : Option Single :=
  match Reader.sign s.toList with
  | none => none
  | some (negative, rest) =>
    let word := lowered rest
    if word = "inf".toList || word = "infinity".toList then some (.infinite negative)
    else if word = "nan".toList then some .nan
    else (Reader.readAll (Reader.decimal negative) rest).map ofDecimal

end Single

/-! ## Integers of thirty-two bits -/

/-- An integer that fits in thirty-two bits, sign included. -/
def isInt32 (n : Int) : Bool := -2147483648 ≤ n && n ≤ 2147483647

/-- The integer that digits spell, after an optional sign. -/
def signedDigits? (s : List Char) : Option Int :=
  let (negative, digits) :=
    match s with
    | '-' :: rest => (true, rest)
    | '+' :: rest => (false, rest)
    | _ => (false, s)
  if digits.isEmpty || !digits.all isAsciiDigit then none
  else
    let n := Decimal.natFrom 0 digits
    some (if negative then -(n : Int) else n)

/-- The integer of thirty-two bits that a text spells: at most one sign and at
    least one ASCII digit. -/
def int32? (s : List Char) : Option Int :=
  (signedDigits? s).filter isInt32

end EffectText
