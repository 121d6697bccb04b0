import EffectText.Number.Decimal
import EffectText.Number.Rounding

/-! # Single-precision numbers

    IEEE 754 numbers of thirty-two bits, as values that can be computed with
    inside the logic: a number is not a number, infinite, or finite with a sign
    and a rank (see `BinaryFormat`). Zero has both signs.

    Every operation computes the exact result and rounds it once, to nearest,
    ties to even.
-/

namespace EffectText

/-- A single-precision number. -/
inductive Single where
  /-- The result of an operation that has none. -/
  | nan
  /-- Greater in magnitude than every finite number. -/
  | infinite (negative : Bool)
  /-- A finite number: its sign, and the rank of its magnitude. -/
  | finite (negative : Bool) (rank : Nat) (in_range : rank < BinaryFormat.single.limit)
  deriving DecidableEq, Repr

namespace Single

/-! ## Making numbers -/

/-- The number of the given sign and rank; infinite if the rank is too great. -/
def ofRank (negative : Bool) (rank : Nat) : Single :=
  if h : rank < BinaryFormat.single.limit then .finite negative rank h
  else .infinite negative

/-- The number nearest to `n / d` units. -/
def ofUnits (negative : Bool) (n d : Nat) : Single :=
  ofRank negative (BinaryFormat.single.rank n d)

/-- Zero, with a plus. -/
def zero : Single := .finite false 0 (by decide)

instance : Inhabited Single := ⟨zero⟩

/-- The magnitude of a finite number, in units of `2 ^ (-149)`. -/
def unitsOf (rank : Nat) : Nat := BinaryFormat.single.units rank

/-! ## Sign and comparison with zero -/

/-- The number with the other sign. -/
def neg : Single → Single
  | .nan => .nan
  | .infinite negative => .infinite !negative
  | .finite negative rank h => .finite (!negative) rank h

/-- The number without its sign. -/
def abs : Single → Single
  | .nan => .nan
  | .infinite _ => .infinite false
  | .finite _ rank h => .finite false rank h

/-- Equal to zero, of either sign. -/
def isZero : Single → Bool
  | .finite _ rank _ => rank == 0
  | _ => false

/-- Greater than zero. -/
def isPositive : Single → Bool
  | .nan => false
  | .infinite negative => !negative
  | .finite negative rank _ => !negative && rank != 0

/-- Neither infinite nor `nan`. -/
def isFinite : Single → Bool
  | .finite _ _ _ => true
  | _ => false

/-- **Numeric equality**: `nan` equals nothing, and the two zeros are equal. -/
def numEq : Single → Single → Bool
  | .infinite a, .infinite b => a == b
  | .finite a m _, .finite b n _ => m == n && (a == b || m == 0)
  | _, _ => false

/-! ## Arithmetic -/

/-- The magnitude in units, with its sign. -/
def signedUnits (negative : Bool) (rank : Nat) : Int :=
  if negative then -(unitsOf rank : Int) else unitsOf rank

/-- The sum. Opposite infinities have none; a sum that is exactly zero is
    negative only if both terms are. -/
def add : Single → Single → Single
  | .nan, _ => .nan
  | _, .nan => .nan
  | .infinite a, .infinite b => if a == b then .infinite a else .nan
  | .infinite a, .finite _ _ _ => .infinite a
  | .finite _ _ _, .infinite b => .infinite b
  | .finite a m _, .finite b n _ =>
    let sum := signedUnits a m + signedUnits b n
    if sum = 0 then ofRank (a && b) 0
    else ofUnits (sum < 0) sum.natAbs 1

/-- The product. Zero times infinity has none. -/
def mul : Single → Single → Single
  | .nan, _ => .nan
  | _, .nan => .nan
  | .infinite a, .infinite b => .infinite (a != b)
  | .infinite a, .finite b n _ => if n = 0 then .nan else .infinite (a != b)
  | .finite a m _, .infinite b => if m = 0 then .nan else .infinite (a != b)
  | .finite a m _, .finite b n _ =>
    ofUnits (a != b) (unitsOf m * unitsOf n) (Nat.pow 2 BinaryFormat.single.scale)

instance : Add Single := ⟨add⟩
instance : Mul Single := ⟨mul⟩
instance : Neg Single := ⟨neg⟩

end Single

/-! ## Reading decimals -/

namespace BinaryFormat

/-- Beyond this power of ten a decimal overflows every format, and below its
    negative it vanishes. -/
def greatestPower : Nat := 400

/-- The rank nearest to the magnitude of a decimal. -/
def rankOfDecimal (f : BinaryFormat) (d : Decimal) : Nat :=
  if d.digits = 0 then 0
  else if d.exponent > greatestPower then f.limit
  else if d.exponent < -((greatestPower + d.digits.log2 : Nat) : Int) then 0
  else
    let units := d.digits * Nat.pow 2 f.scale
    if 0 ≤ d.exponent then f.rank (units * Nat.pow 10 d.exponent.toNat) 1
    else f.rank units (Nat.pow 10 (-d.exponent).toNat)

end BinaryFormat

namespace Single

/-- The number nearest to a decimal. -/
def ofDecimal (d : Decimal) : Single :=
  ofRank d.negative (BinaryFormat.single.rankOfDecimal d)

end Single

end EffectText
