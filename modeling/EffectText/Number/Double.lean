import EffectText.Number.Single

/-! # Double-precision numbers

    Finite IEEE 754 numbers of sixty-four bits. They are a step between a decimal in
    a text and a single-precision number.

    A text is read quickly rather than exactly. Its leading digits, as many as stay
    below `2 ^ 64`, are rounded to a number, which is then multiplied or divided by
    the number nearest to a power of ten, and rounded again. The result can differ
    from the nearest number in its last bit.
-/

namespace EffectText

open Text

/-! ## Values -/

/-- A finite double-precision number: its sign, and the rank of its magnitude. -/
structure Double where
  negative : Bool
  rank : Nat
  in_range : rank < BinaryFormat.double.limit
  deriving DecidableEq, Repr

namespace Double

/-- The number of the given sign and rank, unless the rank is too great. -/
def ofRank? (negative : Bool) (rank : Nat) : Option Double :=
  if h : rank < BinaryFormat.double.limit then some { negative, rank, in_range := h }
  else none

/-- The number nearest to an integer below `2 ^ 64`, and to some above. -/
def ofInt? (n : Int) : Option Double :=
  ofRank? (n < 0) (BinaryFormat.double.rankOfNat n.natAbs)

/-- The nearest single-precision number. -/
def toSingle (x : Double) : Single :=
  Single.ofUnits x.negative (BinaryFormat.double.units x.rank)
    (Nat.pow 2 (BinaryFormat.double.scale - BinaryFormat.single.scale))

/-! ## Scaling by powers of ten -/

/-- The greatest power of ten in the format. -/
def greatestPower : Nat := 308

/-- The rank nearest to `10 ^ n`. -/
def powerOfTen (n : Nat) : Nat := BinaryFormat.double.rankOfNat (Nat.pow 10 n)

/-- The rank of a magnitude divided by `10 ^ n`. -/
def divided (rank n : Nat) : Nat := BinaryFormat.double.quotient rank (powerOfTen n)

/-- The rank of a magnitude below `2 ^ 64` that is multiplied by `10 ^ exponent`.
    There are two divisions if the power of ten is too small for the format, and
    nothing is left after more. -/
def scaled (rank : Nat) (exponent : Int) : Nat :=
  if rank = 0 then 0
  else if exponent > greatestPower then BinaryFormat.double.limit
  else if 0 ≤ exponent then
    BinaryFormat.double.product rank (powerOfTen exponent.toNat)
  else
    let n := (-exponent).toNat
    if n ≤ greatestPower then divided rank n
    else if n ≤ 2 * greatestPower then
      divided (divided rank greatestPower) (n - greatestPower)
    else 0

/-! ## Reading -/

/-- Appends digits to a whole number as long as it stays below `2 ^ 64`. The digits
    that are left come with it. -/
def appendDigits (n : Nat) : List Char → Nat × List Char
  | [] => (n, [])
  | c :: rest =>
    let longer := 10 * n + asciiDigitValue c
    if longer < Nat.pow 2 64 then appendDigits longer rest else (n, c :: rest)

/-- **Reading**: the number of the digits before and after the point and of the power
    of ten. There is none if it is too great for the format. -/
def ofDigits? (negative : Bool) (whole fraction : List Char) (power : Int) :
    Option Double :=
  let (n, wholeLeft) := appendDigits 0 whole
  let (n, fractionLeft) := appendDigits n fraction
  let shift := (wholeLeft.length + fractionLeft.length : Int) - fraction.length
  ofRank? negative (scaled (BinaryFormat.double.rankOfNat n) (power + shift))

end Double

end EffectText
