/-! # Rounding to binary floating point

    A **binary format** holds numbers `m · 2 ^ k` units, where a unit is its
    smallest positive number and `m` has a bounded count of bits. Its numbers
    from zero upward are counted by their **rank**: rank 0 is zero, rank 1 is one
    unit, and the next greater number has the next rank.

    * `units` gives the value of a rank, in units.
    * `rank` rounds a ratio of units to the nearest rank, and of two equally near
      to the even one.

    Both are exact arithmetic on natural numbers.
-/

namespace EffectText

/-! ## Rounding a quotient -/

/-- The whole number nearest to `n / d`; of two equally near, the even one. -/
def roundHalfEven (n d : Nat) : Nat :=
  let q := n / d
  let twice := 2 * (n % d)
  if twice < d then q
  else if d < twice then q + 1
  else q + q % 2

/-! ## Formats -/

/-- A binary floating-point format. -/
structure BinaryFormat where
  /-- The bits of a significand after its first one. -/
  fractionBits : Nat
  /-- A unit is `2 ^ (-scale)`. -/
  scale : Nat
  /-- The ranks below this one are finite; this one and above overflow. -/
  limit : Nat
  deriving DecidableEq, Repr

namespace BinaryFormat

/-- IEEE 754 single precision. -/
def single : BinaryFormat := { fractionBits := 23, scale := 149, limit := 255 * Nat.pow 2 23 }

/-- IEEE 754 double precision. -/
def double : BinaryFormat := { fractionBits := 52, scale := 1074, limit := 2047 * Nat.pow 2 52 }

/-- The value of the number of the given rank, in units. Ranks go up by one unit
    at first, then by twice as much after each block of `2 ^ fractionBits`. -/
def units (f : BinaryFormat) (rank : Nat) : Nat :=
  let block := Nat.pow 2 f.fractionBits
  let k := rank / block - 1
  (rank - k * block) * Nat.pow 2 k

/-- The rank nearest to `n / d` units; of two equally near, the even one. Ranks
    at or above `f.limit` mean that the ratio is too great for the format. -/
def rank (f : BinaryFormat) (n d : Nat) : Nat :=
  let k := (n / d).log2 - f.fractionBits
  k * Nat.pow 2 f.fractionBits + roundHalfEven n (d * Nat.pow 2 k)

/-- The rank nearest to a whole number. -/
def rankOfNat (f : BinaryFormat) (n : Nat) : Nat := f.rank (n * Nat.pow 2 f.scale) 1

/-- The rank nearest to the product of the numbers of two ranks. -/
def product (f : BinaryFormat) (a b : Nat) : Nat :=
  f.rank (f.units a * f.units b) (Nat.pow 2 f.scale)

/-- The rank nearest to the quotient of the numbers of two ranks. -/
def quotient (f : BinaryFormat) (a b : Nat) : Nat :=
  f.rank (f.units a * Nat.pow 2 f.scale) (f.units b)

end BinaryFormat

end EffectText
