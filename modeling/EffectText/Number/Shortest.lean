import EffectText.Number.Double

/-! # The shortest text of a binary number

    The digits shown are the fewest that read back as the number, and the nearest
    to it of those. They are found on the decimal grids `10 ^ e`, the coarsest
    first: on each grid only the two neighbours of the number matter. On the grid
    `10 ^ (-scale)` every finite number stands itself, so the search ends.
-/

namespace EffectText

namespace BinaryFormat

/-! ## Decimal grids -/

/-- The coarsest grid with a positive point that is finite. -/
def coarsestPower (f : BinaryFormat) : Nat :=
  (Decimal.wholeDigits (f.units (f.limit - 1) / Nat.pow 2 f.scale)).length - 1

/-- The steps from the coarsest grid down to one on which every number stands. -/
def gridSteps (f : BinaryFormat) : Nat := f.coarsestPower + f.scale

/-- Whether `digits · 10 ^ exponent` reads as the number of the given rank. -/
def readsAs (f : BinaryFormat) (rank digits : Nat) (exponent : Int) : Bool :=
  f.rankOfDecimal { negative := false, digits, exponent } == rank

/-- The neighbour of the number on the grid `10 ^ exponent` that reads back. If
    both do, it is the nearer one, and the upper one of two equally near. -/
def onGrid? (f : BinaryFormat) (rank : Nat) (exponent : Int) : Option Nat :=
  let unit := Nat.pow 2 f.scale
  -- the number over the grid's step, as the ratio `n / d`
  let n := f.units rank * Nat.pow 10 (-exponent).toNat
  let d := unit * Nat.pow 10 exponent.toNat
  let lower := n / d
  let upper := lower + 1
  match f.readsAs rank lower exponent, f.readsAs rank upper exponent with
  | true, true => if n - lower * d < upper * d - n then some lower else some upper
  | true, false => some lower
  | false, true => some upper
  | false, false => none

/-- The first grid at or below `10 ^ exponent` with a point that reads back, and
    that point. -/
def searchGrids (f : BinaryFormat) (rank : Nat) (exponent : Int) : Nat → Nat × Int
  | 0 => ((f.onGrid? rank exponent).getD 0, exponent)
  | steps + 1 =>
    match f.onGrid? rank exponent with
    | some digits => (digits, exponent)
    | none => f.searchGrids rank (exponent - 1) steps

/-- **Shortest decimal**: digits and power of ten of the number of a rank. -/
def shortest (f : BinaryFormat) (rank : Nat) : Nat × Int :=
  if rank = 0 then (0, 0) else f.searchGrids rank f.coarsestPower f.gridSteps

end BinaryFormat

/-! ## Texts -/

/-- **Shortest text**: a minus if the number has one, then its shortest decimal
    without an exponent. -/
def Single.toText : Single → String
  | .nan => "NaN"
  | .infinite negative => if negative then "-inf" else "inf"
  | .finite negative rank _ =>
    let (digits, exponent) := BinaryFormat.single.shortest rank
    let shown := Decimal.positional digits exponent
    String.ofList (if negative then '-' :: shown else shown)

/-- The shortest decimal of a double-precision number, as digits and a power of ten. -/
def Double.toText (x : Double) : String :=
  let (digits, exponent) := BinaryFormat.double.shortest x.rank
  (if x.negative then "-" else "") ++ toString digits ++ "e" ++ toString exponent

end EffectText
