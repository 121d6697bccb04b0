/-! # Ranges of code points

    A set of characters is given by the ranges of its code points: the first and the
    last of each, in ascending order and apart from each other.

    * `contains` tells whether a code point is in the set.
    * `ofUnordered` puts ranges into order and joins those that meet.
    * `union`, `complement`, `inter`, `diff` and `symmDiff` are the operations on sets.
-/

namespace EffectText.Text

/-- **Ranges** of code points: first and last of each. -/
abbrev CodeRanges := List (Nat × Nat)

namespace CodeRanges

/-- Whether a code point is in one of the ranges, which are in ascending order: beyond
    the code point none needs to be looked at. -/
def contains : CodeRanges → Nat → Bool
  | [], _ => false
  | (first, last) :: rest, n => first ≤ n && (n ≤ last || contains rest n)

/-- The greatest code point. -/
def greatest : Nat := 0x10FFFF

/-! ## Making sets -/

/-- Ranges in ascending order of their first code points, with the range from `first`
    to `last` in front. Those that meet become one. -/
def joinFrom (first last : Nat) : CodeRanges → CodeRanges
  | [] => [(first, last)]
  | (a, b) :: rest =>
    if a ≤ last + 1 then joinFrom first (max last b) rest
    else (first, last) :: joinFrom a b rest

/-- The set of ranges in any order, which may overlap. -/
def ofUnordered (ranges : CodeRanges) : CodeRanges :=
  match ranges.mergeSort (fun r s => decide (r.1 ≤ s.1)) with
  | [] => []
  | (first, last) :: rest => joinFrom first last rest

/-- The set of one character. -/
def single (c : Char) : CodeRanges := [(c.toNat, c.toNat)]

/-- The set of the code points in a list. -/
def ofList (codes : List Nat) : CodeRanges := ofUnordered (codes.map fun n => (n, n))

/-! ## Operations -/

/-- The code points of either set. -/
def union (a b : CodeRanges) : CodeRanges := ofUnordered (a ++ b)

/-- The code points of any of the sets. -/
def unionAll (sets : List CodeRanges) : CodeRanges := ofUnordered sets.flatten

/-- The code points from `next` on that are in none of the ranges. -/
def gapsFrom (next : Nat) : CodeRanges → CodeRanges
  | [] => if next ≤ greatest then [(next, greatest)] else []
  | (first, last) :: rest =>
    if next < first then (next, first - 1) :: gapsFrom (last + 1) rest
    else gapsFrom (last + 1) rest

/-- The code points that are not in the set. -/
def complement (a : CodeRanges) : CodeRanges := gapsFrom 0 a

/-- The code points of both sets. -/
def inter (a b : CodeRanges) : CodeRanges :=
  complement (union (complement a) (complement b))

/-- The code points of the first set that are not in the second. -/
def diff (a b : CodeRanges) : CodeRanges := inter a (complement b)

/-- The code points of exactly one of the sets. -/
def symmDiff (a b : CodeRanges) : CodeRanges := union (diff a b) (diff b a)

end CodeRanges

end EffectText.Text
