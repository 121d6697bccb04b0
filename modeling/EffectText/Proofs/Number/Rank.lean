import EffectText.Number.Single
import Mathlib.Tactic.Ring

/-! # Ranks and values

    A rank and its value in units determine each other. The value of a rank is a
    **significand** below two blocks, multiplied by a power of two, and above the first block
    the significand has all its bits (`BinaryFormat.exists_significand`).

    * Rounding finds the quotient of a multiple (`roundHalfEven_mul`), and a factor that both
      sides of a ratio have changes nothing (`roundHalfEven_mul_right`).
    * The same holds of ranks: the value of a rank is rounded to that rank
      (`BinaryFormat.rank_units`), whatever factor the ratio is extended by
      (`BinaryFormat.rank_mul_right`).
    * A number other than zero is left as it is when it is added to zero (`Single.zero_add`).
-/

namespace EffectText

/-! ## Rounding -/

/-- A multiple of the divisor is divided without rounding. -/
theorem roundHalfEven_mul (n : Nat) {d : Nat} (hd : 0 < d) : roundHalfEven (n * d) d = n := by
  unfold roundHalfEven
  rw [Nat.mul_div_cancel n hd, Nat.mul_mod_left]
  simp [hd]

/-- A common factor of both sides does not change how a ratio is rounded. -/
theorem roundHalfEven_mul_right (n d : Nat) {c : Nat} (hc : 0 < c) :
    roundHalfEven (n * c) (d * c) = roundHalfEven n d := by
  have htwice : 2 * (n * c % (d * c)) = 2 * (n % d) * c := by
    rw [Nat.mul_mod_mul_right, Nat.mul_assoc]
  unfold roundHalfEven
  rw [Nat.mul_div_mul_right n d hc, htwice]
  simp only [Nat.mul_lt_mul_right hc]

namespace BinaryFormat

variable (f : BinaryFormat)

/-! ## Values of ranks -/

/-- **Significand**: a rank stands in block `k` of the numbers that are multiples of `2 ^ k`
    units, and from the second block on its significand fills a block. -/
structure IsSignificand (k m rank : Nat) : Prop where
  rank_eq : rank = k * 2 ^ f.fractionBits + m
  units_eq : f.units rank = m * 2 ^ k
  lt : m < 2 * 2 ^ f.fractionBits
  le : 0 < k → 2 ^ f.fractionBits ≤ m

theorem exists_significand (rank : Nat) : ∃ k m, f.IsSignificand k m rank := by
  have hsplit := Nat.div_add_mod' rank (2 ^ f.fractionBits)
  have hrest := Nat.mod_lt rank (Nat.two_pow_pos f.fractionBits)
  cases hblock : rank / 2 ^ f.fractionBits with
  | zero =>
    -- the numbers of the first block are multiples of one unit, as those of the second
    have hunits : f.units rank = rank * 2 ^ 0 := by
      simp [units, hblock]
    rw [hblock] at hsplit
    exact ⟨0, rank, by omega, hunits, by omega, by omega⟩
  | succ k =>
    have hunits : f.units rank = (rank - k * 2 ^ f.fractionBits) * 2 ^ k := by
      simp [units, hblock]
    rw [hblock, Nat.succ_mul] at hsplit
    exact ⟨k, rank - k * 2 ^ f.fractionBits, by omega, hunits, by omega, by omega⟩

/-- The bits of a significand tell its block. -/
theorem IsSignificand.log2_sub {f : BinaryFormat} {k m rank : Nat}
    (h : f.IsSignificand k m rank) : (m * 2 ^ k).log2 - f.fractionBits = k := by
  rcases Nat.eq_zero_or_pos k with rfl | hk
  · rcases Nat.eq_zero_or_pos m with rfl | hm
    · simp
    · have hlt : m.log2 < f.fractionBits + 1 := by
        rw [Nat.log2_lt (by omega), Nat.pow_succ]
        have := h.lt
        omega
      simp
      omega
  · have hlow := h.le hk
    have hhigh := h.lt
    have hblock : 0 < 2 ^ f.fractionBits := Nat.two_pow_pos _
    have hlog : (m * 2 ^ k).log2 = f.fractionBits + k := by
      rw [Nat.log2_eq_iff (Nat.mul_ne_zero (by omega) (Nat.two_pow_pos k).ne')]
      constructor
      · rw [Nat.pow_add]
        exact Nat.mul_le_mul_right _ hlow
      · have hdouble : 2 ^ (f.fractionBits + k + 1) = 2 * 2 ^ f.fractionBits * 2 ^ k := by ring
        rw [hdouble]
        exact Nat.mul_lt_mul_of_pos_right hhigh (Nat.two_pow_pos k)
    omega

/-- A common factor of both sides does not change the rank of a ratio. -/
theorem rank_mul_right (n d : Nat) {c : Nat} (hc : 0 < c) : f.rank (n * c) (d * c) = f.rank n d := by
  unfold rank
  rw [Nat.mul_div_mul_right n d hc]
  dsimp only
  rw [Nat.mul_right_comm, roundHalfEven_mul_right _ _ hc]

/-- Equal ratios have the same rank. -/
theorem rank_eq_of_cross {n d n' d' : Nat} (hd : 0 < d) (hd' : 0 < d') (h : n * d' = n' * d) :
    f.rank n d = f.rank n' d' := by
  rw [← f.rank_mul_right n d hd', ← f.rank_mul_right n' d' hd, h, Nat.mul_comm d d']

/-- **Exactness**: the value of a rank is rounded to that rank. -/
theorem rank_units (r : Nat) {d : Nat} (hd : 0 < d) : f.rank (f.units r * d) d = r := by
  obtain ⟨k, m, h⟩ := f.exists_significand r
  have hpower : 0 < 2 ^ k := Nat.two_pow_pos k
  have hratio : m * 2 ^ k * d = m * (d * 2 ^ k) := by ring
  unfold rank
  rw [h.units_eq, Nat.mul_div_cancel _ hd]
  dsimp only
  rw [h.log2_sub, hratio, Nat.pow_eq, Nat.pow_eq, roundHalfEven_mul m (Nat.mul_pos hd hpower)]
  exact h.rank_eq.symm

/-- Only rank zero has the value zero. -/
theorem units_pos {r : Nat} (hr : 0 < r) : 0 < f.units r := by
  obtain ⟨k, m, h⟩ := f.exists_significand r
  have hm : 0 < m := by
    rcases Nat.eq_zero_or_pos k with rfl | hk
    · have := h.rank_eq
      omega
    · exact Nat.lt_of_lt_of_le (Nat.two_pow_pos _) (h.le hk)
  rw [h.units_eq]
  exact Nat.mul_pos hm (Nat.two_pow_pos k)

end BinaryFormat

/-! ## Adding to zero -/

namespace Single

/-- **Zero** leaves a finite number as it is, unless that is zero itself. -/
theorem zero_add {x : Single} (hfinite : x.isFinite = true) (hnonzero : x.isZero = false) :
    zero + x = x := by
  match x, hfinite with
  | .finite negative rank h, _ =>
    have hrank : 0 < rank := by
      have hne : rank ≠ 0 := by simpa [isZero] using hnonzero
      omega
    have hunits : 0 < unitsOf rank := BinaryFormat.single.units_pos hrank
    have hsum : signedUnits false 0 + signedUnits negative rank = signedUnits negative rank := by
      have hzero : signedUnits false 0 = 0 := by decide
      rw [hzero, Int.zero_add]
    have hsign : decide (signedUnits negative rank < 0) = negative ∧
        (signedUnits negative rank).natAbs = unitsOf rank ∧ signedUnits negative rank ≠ 0 := by
      unfold signedUnits
      cases negative with
      | false => simp; omega
      | true => simp; omega
    obtain ⟨hnegative, habs, hne⟩ := hsign
    have hback : BinaryFormat.single.rank (unitsOf rank) 1 = rank := by
      have hexact := BinaryFormat.single.rank_units rank Nat.one_pos
      rwa [Nat.mul_one] at hexact
    show add zero (.finite negative rank h) = _
    unfold add zero
    dsimp only
    rw [hsum, if_neg hne, hnegative, habs, ofUnits, hback, ofRank, dif_pos h]

/-- A finite number equals itself. -/
theorem numEq_self {x : Single} (hfinite : x.isFinite = true) : x.numEq x = true := by
  match x, hfinite with
  | .finite negative rank h, _ => simp [numEq]

/-- Zero equals a number that is zero, whatever its sign. -/
theorem zero_numEq {x : Single} (hzero : x.isZero = true) : zero.numEq x = true := by
  match x, hzero with
  | .finite negative rank h, hrank =>
    have hrank : rank = 0 := by simpa [isZero] using hrank
    simp [numEq, zero, hrank]

end Single

end EffectText
