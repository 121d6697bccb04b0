import EffectText.Text.Digit

/-! # Decimal numbers

    A **decimal** is a sign, a whole number of digits and a power of ten. It is
    exact: reading one from text loses nothing but the spelling.

    `positional` writes digits and a power of ten without an exponent.
-/

namespace EffectText

open Text

/-! ## Values -/

/-- The number `digits · 10 ^ exponent`, with a sign that zero has too. -/
structure Decimal where
  /-- Whether a minus stands in front. -/
  negative : Bool
  /-- The digits, as a whole number. -/
  digits : Nat
  /-- The power of ten that the digits are multiplied by. -/
  exponent : Int
  deriving DecidableEq, Repr, Inhabited

namespace Decimal

/-- The number that a list of ASCII digits spells, with `start` in front. -/
def natFrom (start : Nat) (digits : List Char) : Nat :=
  digits.foldl (fun n c => 10 * n + asciiDigitValue c) start

/-- The decimal with the given digits before and after the point. -/
def ofDigits (negative : Bool) (whole fraction : List Char) : Decimal :=
  { negative
    digits := natFrom (natFrom 0 whole) fraction
    exponent := -(fraction.length : Int) }

/-- The decimal multiplied by a power of ten. -/
def shift (d : Decimal) (power : Int) : Decimal :=
  { d with exponent := d.exponent + power }

/-! ## Positional text -/

/-- The digits of a whole number. -/
def wholeDigits (n : Nat) : List Char := Nat.toDigits 10 n

/-- A list without the zeros at its end. -/
def dropEndZeros (digits : List Char) : List Char :=
  (digits.reverse.dropWhile (· == '0')).reverse

/-- **Positional text** of `digits · 10 ^ exponent`: never an exponent, no zeros
    at the end of a fraction, and no point without a fraction. -/
def positional (digits : Nat) (exponent : Int) : List Char :=
  if 0 ≤ exponent then wholeDigits (digits * Nat.pow 10 exponent.toNat)
  else
    let places := (-exponent).toNat
    let whole := wholeDigits (digits / Nat.pow 10 places)
    let shown := wholeDigits (digits % Nat.pow 10 places)
    let fraction := dropEndZeros (List.replicate (places - shown.length) '0' ++ shown)
    if fraction.isEmpty then whole else whole ++ '.' :: fraction

end Decimal

end EffectText
