import EffectText.Number.Shortest
import EffectText.Proofs.Data.JsonText
import EffectText.Proofs.Number.Numeral
import EffectText.Proofs.Number.Rank

/-! # Shown numbers read back

    A finite number is shown as the shortest decimal that reads as it. The search for that
    decimal goes from grid to grid, and what it finds reads back, because it is tested; that
    it finds one at all is because every number stands on the finest grid itself
    (`BinaryFormat.readsAs_finest`).

    * **Positional text** spells the number that it was made from, with ASCII digits only
      (`Decimal.exists_shownAs`).
    * **Step**: what one grid gives reads back (`BinaryFormat.readsAs_of_onGrid?`).
      **Run**: so does what a search down to the finest grid gives
      (`BinaryFormat.searchGrids_reads`).
    * Two decimals of one value are read as the same number
      (`BinaryFormat.rankOfDecimal_congr`), so the text of a number is read as the number
      (`Single.exists_digits_of_toText`).
-/

namespace EffectText

open Text

/-! ## Positional text -/

namespace Decimal

theorem natFrom_append (start : Nat) (front rest : List Char) :
    natFrom start (front ++ rest) = natFrom (natFrom start front) rest :=
  List.foldl_append

/-- Zeros behind a number multiply it by ten each. -/
theorem natFrom_zeros (start count : Nat) :
    natFrom start (List.replicate count '0') = start * 10 ^ count := by
  induction count generalizing start with
  | zero => simp [natFrom]
  | succ count ih =>
    show natFrom (10 * start + 0) (List.replicate count '0') = _
    rw [ih, Nat.pow_succ]
    ring

/-- What is dropped at the end of a list is zeros. -/
theorem exists_dropEndZeros_append (digits : List Char) :
    ∃ count, digits = dropEndZeros digits ++ List.replicate count '0' := by
  have hzeros : digits.reverse.takeWhile (· == '0') =
      List.replicate (digits.reverse.takeWhile (· == '0')).length '0' := by
    rw [List.eq_replicate_iff]
    refine ⟨rfl, fun c hc => ?_⟩
    have hzero := List.mem_takeWhile_imp hc
    exact beq_iff_eq.mp hzero
  have hsplit := List.takeWhile_append_dropWhile (p := (· == '0')) (l := digits.reverse)
  refine ⟨(digits.reverse.takeWhile (· == '0')).length, ?_⟩
  rw [hzeros] at hsplit
  simpa [dropEndZeros] using (congrArg List.reverse hsplit).symm

/-- **Shown as**: how `digits · 10 ^ exponent` stands in its positional text. -/
structure ShownAs (digits : Nat) (exponent : Int) (whole fraction : List Char) : Prop where
  text_eq : positional digits exponent =
    if fraction.isEmpty then whole else whole ++ '.' :: fraction
  whole_ne_nil : whole ≠ []
  ascii : ∀ c ∈ whole ++ fraction, isAsciiDigit c = true
  /-- There are no more places than the power of ten asks for. -/
  places_le : fraction.length ≤ (-exponent).toNat
  /-- The text spells the number. -/
  value_eq : natFrom (natFrom 0 whole) fraction * 10 ^ (-exponent).toNat =
    digits * 10 ^ exponent.toNat * 10 ^ fraction.length

/-- The digits of a number that stands behind the point, filled up with zeros in front. -/
def padded (n places : Nat) : List Char :=
  List.replicate (places - (wholeDigits n).length) '0' ++ wholeDigits n

section Padded

variable {n places : Nat}

theorem length_padded (hplaces : 0 < places) (hn : n < 10 ^ places) :
    (padded n places).length = places := by
  have hfit : (wholeDigits n).length ≤ places :=
    (Nat.length_toDigits_le_iff (by decide) hplaces).mpr hn
  rw [padded, List.length_append, List.length_replicate]
  omega

theorem isAsciiDigit_of_mem_padded {c : Char} (hc : c ∈ padded n places) :
    isAsciiDigit c = true := by
  rcases List.mem_append.mp hc with hzero | hdigit
  · rw [List.eq_of_mem_replicate hzero]
    decide
  · exact isAsciiDigit_of_mem_toDigits hdigit

theorem natFrom_padded (start : Nat) (hplaces : 0 < places) (hn : n < 10 ^ places) :
    natFrom start (padded n places) = start * 10 ^ places + n := by
  have hvalue : numeralValue (wholeDigits n) = n := by
    rw [← natFrom_zero]
    exact natFrom_toDigits n
  have hlength := length_padded hplaces hn
  rw [padded, List.length_append, List.length_replicate] at hlength
  rw [padded, natFrom_append, natFrom_zeros, natFrom_eq_add, hvalue, Nat.mul_assoc, ← Nat.pow_add,
    hlength]

end Padded

/-- Below one, digits stand behind the point, and the zeros at their end are left out. -/
theorem exists_shownAs_of_neg (digits : Nat) {exponent : Int} (h : exponent < 0) :
    ∃ whole fraction, ShownAs digits exponent whole fraction := by
  have hpower : exponent.toNat = 0 := by omega
  have hpositive : 0 < (-exponent).toNat := by omega
  have htext : positional digits exponent = _ := if_neg (Int.not_le.mpr h)
  generalize hplaces : (-exponent).toNat = places at htext hpositive
  have hrest : digits % 10 ^ places < 10 ^ places := Nat.mod_lt _ (by positivity)
  have hlength := length_padded hpositive hrest
  have hvalue := natFrom_padded (digits / 10 ^ places) hpositive hrest
  obtain ⟨dropped, hsplit⟩ := exists_dropEndZeros_append (padded (digits % 10 ^ places) places)
  have hkept : ∀ c ∈ dropEndZeros (padded (digits % 10 ^ places) places),
      isAsciiDigit c = true := by
    intro c hc
    have hmem : c ∈ padded (digits % 10 ^ places) places := by
      rw [hsplit]
      exact List.mem_append_left _ hc
    exact isAsciiDigit_of_mem_padded hmem
  refine ⟨wholeDigits (digits / 10 ^ places), dropEndZeros (padded (digits % 10 ^ places) places),
    htext, Nat.toDigits_ne_nil, ?_, ?_, ?_⟩
  · intro c hc
    rcases List.mem_append.mp hc with hwhole | hfraction
    · exact isAsciiDigit_of_mem_toDigits hwhole
    · exact hkept c hfraction
  all_goals
    -- of the places, some hold what is kept, and the others the zeros that are left out
    generalize dropEndZeros (padded (digits % 10 ^ places) places) = fraction at hsplit
    rw [hsplit, List.length_append, List.length_replicate] at hlength
  · omega
  · rw [Nat.div_add_mod', hsplit, natFrom_append, natFrom_zeros] at hvalue
    rw [hpower, hplaces, wholeDigits, natFrom_toDigits]
    calc natFrom (digits / 10 ^ places) fraction * 10 ^ places
        = natFrom (digits / 10 ^ places) fraction * 10 ^ dropped * 10 ^ fraction.length := by
          rw [← hlength, Nat.pow_add]
          ring
      _ = digits * 10 ^ 0 * 10 ^ fraction.length := by rw [hvalue, Nat.pow_zero, Nat.mul_one]

/-- **Positional text** spells its number, in ASCII digits. -/
theorem exists_shownAs (digits : Nat) (exponent : Int) :
    ∃ whole fraction, ShownAs digits exponent whole fraction := by
  by_cases hneg : exponent < 0
  · exact exists_shownAs_of_neg digits hneg
  · have hexponent : 0 ≤ exponent := by omega
    have hplaces : (-exponent).toNat = 0 := by omega
    refine ⟨wholeDigits (digits * 10 ^ exponent.toNat), [], ?_, Nat.toDigits_ne_nil, ?_,
      Nat.zero_le _, ?_⟩
    · simp [positional, hexponent]
    · rw [List.append_nil]
      exact fun c => isAsciiDigit_of_mem_toDigits
    · rw [hplaces, wholeDigits, natFrom_toDigits]
      rfl

end Decimal

/-! ## Reading decimals -/

namespace BinaryFormat

variable (f : BinaryFormat)

/-- **In reach**: neither so great nor so small that a decimal is not looked at. -/
def InReach (exponent : Int) : Prop :=
  -(greatestPower : Int) ≤ exponent ∧ exponent ≤ greatestPower

/-- In reach, a decimal is read as the rank of its exact value. -/
theorem rankOfDecimal_eq {d : Decimal} (h : InReach d.exponent) :
    f.rankOfDecimal d =
      f.rank (d.digits * 10 ^ d.exponent.toNat * 2 ^ f.scale) (10 ^ (-d.exponent).toNat) := by
  obtain ⟨hlow, hhigh⟩ := h
  unfold rankOfDecimal
  by_cases hzero : d.digits = 0
  · rw [if_pos hzero, hzero, Nat.zero_mul, Nat.zero_mul]
    have hrank := f.rank_units 0 (d := 10 ^ (-d.exponent).toNat) (by positivity)
    simpa [units] using hrank.symm
  · rw [if_neg hzero, if_neg (by omega), if_neg (by omega)]
    dsimp only
    split
    · next hexponent =>
      have hplaces : (-d.exponent).toNat = 0 := by omega
      rw [hplaces, Nat.pow_eq, Nat.pow_eq, Nat.mul_right_comm]
      rfl
    · next hexponent =>
      have hpower : d.exponent.toNat = 0 := by omega
      rw [hpower, Nat.pow_zero, Nat.mul_one]
      rfl

/-- **Equal decimals** are read as the same number. -/
theorem rankOfDecimal_congr {d e : Decimal} (hd : InReach d.exponent) (he : InReach e.exponent)
    (h : d.digits * 10 ^ d.exponent.toNat * 10 ^ (-e.exponent).toNat =
      e.digits * 10 ^ e.exponent.toNat * 10 ^ (-d.exponent).toNat) :
    f.rankOfDecimal d = f.rankOfDecimal e := by
  rw [f.rankOfDecimal_eq hd, f.rankOfDecimal_eq he]
  refine f.rank_eq_of_cross (by positivity) (by positivity) ?_
  rw [Nat.mul_right_comm, h, Nat.mul_right_comm]

/-! ## The search for the shortest decimal -/

/-- **Step**: what one grid gives reads back. -/
theorem readsAs_of_onGrid? {rank digits : Nat} {exponent : Int}
    (h : f.onGrid? rank exponent = some digits) : f.readsAs rank digits exponent = true := by
  unfold onGrid? at h
  dsimp only at h
  split at h
  · next hlower hupper =>
    split at h
    · rwa [← Option.some.inj h]
    · rwa [← Option.some.inj h]
  · next hlower _ => rwa [← Option.some.inj h]
  · next _ hupper => rwa [← Option.some.inj h]
  · cases h

/-- On the finest grid every number stands itself. -/
theorem readsAs_finest (hscale : f.scale ≤ greatestPower) (rank : Nat) :
    f.readsAs rank (f.units rank * 10 ^ f.scale / 2 ^ f.scale) (-f.scale) = true := by
  have hreach : InReach (-f.scale) := by
    unfold InReach
    omega
  have htens : 10 ^ f.scale = 5 ^ f.scale * 2 ^ f.scale := by rw [← Nat.mul_pow]
  have hpoint : f.units rank * 10 ^ f.scale / 2 ^ f.scale = f.units rank * 5 ^ f.scale := by
    rw [htens, ← Nat.mul_assoc, Nat.mul_div_cancel _ (Nat.two_pow_pos _)]
  have hplaces : (-(-(f.scale : Int))).toNat = f.scale := by omega
  have hpower : (-(f.scale : Int)).toNat = 0 := by omega
  unfold readsAs
  rw [beq_iff_eq, hpoint, f.rankOfDecimal_eq hreach]
  dsimp only
  rw [hplaces, hpower, Nat.pow_zero, Nat.mul_one, Nat.mul_assoc, ← htens]
  exact f.rank_units rank (by positivity)

theorem isSome_onGrid?_finest (hscale : f.scale ≤ greatestPower) (rank : Nat) :
    (f.onGrid? rank (-f.scale)).isSome = true := by
  have hreads := f.readsAs_finest hscale rank
  have hplaces : (-(-(f.scale : Int))).toNat = f.scale := by omega
  have hpower : (-(f.scale : Int)).toNat = 0 := by omega
  unfold onGrid?
  dsimp only
  rw [hplaces, hpower, Nat.pow_eq, Nat.pow_eq, Nat.pow_eq, Nat.pow_zero, Nat.mul_one, hreads]
  -- the lower neighbour reads back, so one of the two is taken
  split
  · split
    · rfl
    · rfl
  · rfl
  · next hlower _ => cases hlower
  · next hlower _ => cases hlower

/-- **Run**: a search down to a grid that gives something finds what reads back. -/
theorem searchGrids_reads {rank steps : Nat} {exponent : Int}
    (h : (f.onGrid? rank (exponent - steps)).isSome = true) {digits : Nat} {found : Int}
    (hfound : f.searchGrids rank exponent steps = (digits, found)) :
    f.readsAs rank digits found = true ∧ exponent - steps ≤ found ∧ found ≤ exponent := by
  induction steps generalizing exponent with
  | zero =>
    obtain ⟨point, hpoint⟩ := Option.isSome_iff_exists.mp h
    rw [Int.natCast_zero, Int.sub_zero] at hpoint
    rw [searchGrids, hpoint] at hfound
    obtain ⟨rfl, rfl⟩ := Prod.mk.inj hfound
    exact ⟨f.readsAs_of_onGrid? hpoint, by omega, by omega⟩
  | succ steps ih =>
    rw [searchGrids] at hfound
    cases hpoint : f.onGrid? rank exponent with
    | some point =>
      rw [hpoint] at hfound
      obtain ⟨rfl, rfl⟩ := Prod.mk.inj hfound
      exact ⟨f.readsAs_of_onGrid? hpoint, by omega, by omega⟩
    | none =>
      rw [hpoint] at hfound
      have hnext : exponent - ((steps + 1 : Nat) : Int) = exponent - 1 - steps := by omega
      rw [hnext] at h
      obtain ⟨hreads, hlow, hhigh⟩ := ih h hfound
      exact ⟨hreads, by omega, by omega⟩

/-- **Shortest decimals** read back, and are in reach. -/
theorem shortest_reads (hscale : f.scale ≤ greatestPower) (hpower : f.coarsestPower ≤ greatestPower)
    {rank digits : Nat} {exponent : Int} (h : f.shortest rank = (digits, exponent)) :
    f.rankOfDecimal { negative := false, digits, exponent } = rank ∧ InReach exponent := by
  unfold shortest at h
  split at h
  · next hzero =>
    obtain ⟨rfl, rfl⟩ := Prod.mk.inj h
    rw [hzero]
    exact ⟨rfl, by omega, by omega⟩
  · next hzero =>
    have hfinest : (f.coarsestPower : Int) - f.gridSteps = -f.scale := by
      unfold gridSteps
      omega
    have hsome := f.isSome_onGrid?_finest hscale rank
    rw [← hfinest] at hsome
    obtain ⟨hreads, hlow, hhigh⟩ := f.searchGrids_reads hsome h
    rw [hfinest] at hlow
    exact ⟨beq_iff_eq.mp hreads, by omega, by omega⟩

/-- The digits of a positional text read as the decimal that it shows. -/
theorem rankOfDecimal_ofDigits {digits : Nat} {exponent : Int} {whole fraction : List Char}
    (hshown : Decimal.ShownAs digits exponent whole fraction) (hreach : InReach exponent) :
    f.rankOfDecimal (.ofDigits false whole fraction) =
      f.rankOfDecimal { negative := false, digits, exponent } := by
  obtain ⟨hlow, hhigh⟩ := hreach
  have hplaces := hshown.places_le
  have hpoint : InReach (-(fraction.length : Int)) := by
    unfold InReach
    omega
  have hexponent : (-(fraction.length : Int)).toNat = 0 := by omega
  have hback : (-(-(fraction.length : Int))).toNat = fraction.length := by omega
  refine f.rankOfDecimal_congr hpoint ⟨hlow, hhigh⟩ ?_
  unfold Decimal.ofDigits
  dsimp only
  rw [hexponent, hback, Nat.pow_zero, Nat.mul_one]
  exact hshown.value_eq

end BinaryFormat

/-! ## Shown numbers -/

namespace Single

/-- The greatest finite number is below `10 ^ 39`. -/
theorem coarsestPower_single : BinaryFormat.single.coarsestPower = 38 := by decide +kernel

/-- **Shown numbers** are ASCII digits, perhaps with a point and more digits behind it, and
    these digits are read as the number. -/
theorem exists_digits_of_toText {rank : Nat} (h : rank < BinaryFormat.single.limit) :
    ∃ whole fraction : List Char, whole ≠ [] ∧ (∀ c ∈ whole ++ fraction, isAsciiDigit c = true) ∧
      (Single.finite false rank h).toText.toList =
        (if fraction.isEmpty then whole else whole ++ '.' :: fraction) ∧
      ofDecimal (.ofDigits false whole fraction) = .finite false rank h := by
  obtain ⟨digits, exponent, hshortest⟩ : ∃ digits exponent,
      BinaryFormat.single.shortest rank = (digits, exponent) := ⟨_, _, rfl⟩
  have hpower : BinaryFormat.single.coarsestPower ≤ BinaryFormat.greatestPower := by
    rw [coarsestPower_single]
    decide
  obtain ⟨hreads, hreach⟩ := BinaryFormat.single.shortest_reads (by decide) hpower hshortest
  obtain ⟨whole, fraction, hshown⟩ := Decimal.exists_shownAs digits exponent
  refine ⟨whole, fraction, hshown.whole_ne_nil, hshown.ascii, ?_, ?_⟩
  · have htext : (Single.finite false rank h).toText = String.ofList (Decimal.positional
        (BinaryFormat.single.shortest rank).1 (BinaryFormat.single.shortest rank).2) := rfl
    rw [htext, hshortest, String.toList_ofList, hshown.text_eq]
  · have hrank : BinaryFormat.single.rankOfDecimal (.ofDigits false whole fraction) = rank := by
      rw [BinaryFormat.single.rankOfDecimal_ofDigits hshown hreach, hreads]
    unfold ofDecimal ofRank
    rw [hrank, dif_pos h]
    rfl

end Single

end EffectText
