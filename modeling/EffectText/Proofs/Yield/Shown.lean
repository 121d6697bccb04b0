import EffectText.Proofs.Number.Shown
import EffectText.Proofs.Yield.Amounts
import Mathlib.Data.List.Forall2

/-! # Shown yields read back

    Yields are shown as one term for each amount that is not zero. The sign of a term is
    chosen by the amount and its digits by the magnitude, and what is shown of a finite amount
    is a written term whose amount is that number (`Term.exists_shows`).

    So the text of yields is a list of written terms, one for each amount that is not zero and
    in their order (`Yields.exists_terms`). Each yield has at most one term, so its sum is
    that one amount, added to zero (`Yields.amounts_shown`).

    * `Yields.shown_yields_read_back`: the text is a token unless it is empty, and reading it
      gives every amount back.
-/

namespace EffectText

open Text

/-! ## Terms -/

namespace Term

/-- The term with the given digits. Without digits behind the point there is no point. -/
def ofDigits (negative : Bool) (whole fraction : List Char) (yield : Yield) : Term :=
  { negative, whole, fraction := if fraction.isEmpty then none else some fraction, yield }

section Digits

variable (negative : Bool) (whole fraction : List Char) (yield : Yield)

theorem getD_fraction_ofDigits :
    (ofDigits negative whole fraction yield).fraction.getD [] = fraction := by
  cases fraction with
  | nil => rfl
  | cons c rest => rfl

theorem digits_ofDigits : (ofDigits negative whole fraction yield).digits = whole ++ fraction := by
  unfold digits
  rw [getD_fraction_ofDigits]
  rfl

theorem magnitude_ofDigits : (ofDigits negative whole fraction yield).magnitude =
    if fraction.isEmpty then whole else whole ++ '.' :: fraction := by
  cases fraction with
  | nil => rfl
  | cons c rest => rfl

variable {whole fraction}

theorem isWritten_ofDigits (hwhole : whole ≠ [])
    (hascii : ∀ c ∈ whole ++ fraction, isAsciiDigit c = true) :
    (ofDigits negative whole fraction yield).IsWritten := by
  constructor
  case whole_ne_nil => exact hwhole
  case fraction_ne_nil =>
    intro places hplaces
    cases fraction with
    | nil => cases hplaces
    | cons c rest =>
      obtain rfl := Option.some.inj hplaces
      exact List.cons_ne_nil c rest
  case digits =>
    intro c hc
    rw [digits_ofDigits] at hc
    exact isDecimalDigit_of_isAsciiDigit (hascii c hc)

/-- The amount of a term of ASCII digits is the number of these digits, with its sign. -/
theorem signedAmount?_ofDigits (hwhole : whole ≠ [])
    (hascii : ∀ c ∈ whole ++ fraction, isAsciiDigit c = true) :
    (ofDigits negative whole fraction yield).signedAmount? =
      some (if negative then -Single.ofDecimal (.ofDigits false whole fraction)
        else Single.ofDecimal (.ofDigits false whole fraction)) := by
  have hall : (ofDigits negative whole fraction yield).digits.all isAsciiDigit = true := by
    rw [digits_ofDigits]
    exact List.all_eq_true.mpr hascii
  rw [← amount?_eq (isWritten_ofDigits negative yield hwhole hascii)]
  unfold amount?
  rw [if_pos hall, getD_fraction_ofDigits]
  rfl

end Digits

/-- **Shows**: the term is what is written for an amount of a yield, and means that amount. -/
structure Shows (entry : Yield × Single) (term : Term) : Prop where
  written : term.IsWritten
  yield_eq : term.yield = entry.1
  source_eq : term.source = (Yields.termText entry.1 entry.2).toList
  amount_eq : term.signedAmount? = some entry.2

/-- **Shown terms**: every finite amount but zero is shown by a written term. -/
theorem exists_shows (yield : Yield) {amount : Single} (hfinite : amount.isFinite = true)
    (hnonzero : amount.isZero = false) : ∃ term, Shows (yield, amount) term := by
  match amount, hfinite with
  | .finite negative rank h, _ =>
    have hpositive : (Single.finite negative rank h).isPositive = !negative := by
      have hrank : (rank == 0) = false := hnonzero
      simp [Single.isPositive, bne, hrank]
    -- the text of the magnitude gives the digits, and these give the magnitude back
    obtain ⟨whole, fraction, hwhole, hascii, htext, hread⟩ := Single.exists_digits_of_toText h
    refine ⟨ofDigits negative whole fraction yield, ?_⟩
    constructor
    case written => exact isWritten_ofDigits negative yield hwhole hascii
    case yield_eq => rfl
    case source_eq =>
      unfold source unsigned Yields.termText
      rw [magnitude_ofDigits, ← htext, hpositive]
      cases negative with
      | false => simp [ofDigits, Single.abs]
      | true => simp [ofDigits, Single.abs]
    case amount_eq =>
      rw [signedAmount?_ofDigits negative yield hwhole hascii, hread]
      cases negative with
      | false => rfl
      | true => rfl

end Term

namespace Yields

/-! ## Texts -/

/-- A list of amounts that are finite and not zero is shown by a list of terms. -/
theorem exists_forall₂_shows {entries : List (Yield × Single)}
    (h : ∀ entry ∈ entries, entry.2.isFinite = true ∧ entry.2.isZero = false) :
    ∃ terms, List.Forall₂ Term.Shows entries terms := by
  induction entries with
  | nil => exact ⟨[], .nil⟩
  | cons entry rest ih =>
    obtain ⟨⟨hfinite, hnonzero⟩, hrest⟩ := List.forall_mem_cons.mp h
    obtain ⟨term, hterm⟩ := Term.exists_shows entry.1 hfinite hnonzero
    obtain ⟨terms, hterms⟩ := ih hrest
    exact ⟨term :: terms, .cons hterm hterms⟩

/-- Terms that show amounts are written, and have their texts. -/
theorem sources_of_shows {entries : List (Yield × Single)} {terms : List Term}
    (h : List.Forall₂ Term.Shows entries terms) :
    (∀ term ∈ terms, term.IsWritten) ∧
      terms.map Term.source = entries.map fun entry => (termText entry.1 entry.2).toList := by
  induction h with
  | nil => simp
  | cons hterm hrest ih =>
    obtain ⟨hwritten, hsources⟩ := ih
    refine ⟨List.forall_mem_cons.mpr ⟨hterm.written, hwritten⟩, ?_⟩
    rw [List.map_cons, List.map_cons, hterm.source_eq, hsources]

/-- Terms that show amounts mean, of each yield, the amounts of that yield. -/
theorem amounts_of_shows {entries : List (Yield × Single)} {terms : List Term}
    (h : List.Forall₂ Term.Shows entries terms) (yield : Yield) :
    (terms.filter (·.yield = yield)).filterMap Term.signedAmount? =
      (entries.filter (·.1 = yield)).map (·.2) := by
  induction h with
  | nil => rfl
  | @cons entry term rest others hterm hrest ih =>
    have hyield := hterm.yield_eq
    by_cases hsame : entry.1 = yield
    · simp [hyield, hsame, hterm.amount_eq, ih]
    · simp [hyield, hsame, ih]

variable {amounts : Yields}

theorem mem_nonzero_iff {entry : Yield × Single} :
    entry ∈ amounts.nonzero ↔ entry.2 = amounts.get entry.1 ∧ entry.2.isZero = false := by
  obtain ⟨yield, amount⟩ := entry
  unfold nonzero
  rw [List.mem_filter, List.mem_map, Bool.not_eq_true']
  refine and_congr_left fun _ => ?_
  constructor
  · rintro ⟨_, -, heq⟩
    obtain ⟨rfl, rfl⟩ := Prod.mk.inj heq
    rfl
  · intro hamount
    exact ⟨yield, Yield.mem_all yield, Prod.ext rfl hamount.symm⟩

/-- **Text** of finite yields: the texts of written terms that show what is not zero. -/
theorem exists_terms (hfinite : ∀ yield, (amounts.get yield).isFinite = true) :
    ∃ terms, List.Forall₂ Term.Shows amounts.nonzero terms ∧
      amounts.toText.toList = Term.joined terms := by
  have hentries : ∀ entry ∈ amounts.nonzero,
      entry.2.isFinite = true ∧ entry.2.isZero = false := by
    intro entry hentry
    obtain ⟨hamount, hnonzero⟩ := mem_nonzero_iff.mp hentry
    exact ⟨by rw [hamount]; exact hfinite entry.1, hnonzero⟩
  obtain ⟨terms, hterms⟩ := exists_forall₂_shows hentries
  refine ⟨terms, hterms, ?_⟩
  unfold toText Term.joined
  rw [String.toList_intercalate, (sources_of_shows hterms).2, List.map_map]
  rfl

/-- Nothing is shown exactly if there is nothing to show. -/
theorem nonzero_eq_nil_iff : amounts.nonzero = [] ↔ amounts.isEmpty = true := by
  rw [List.eq_nil_iff_forall_not_mem, isEmpty, List.all_eq_true]
  constructor
  · intro h yield _
    by_contra hnonzero
    exact h (yield, amounts.get yield) (mem_nonzero_iff.mpr ⟨rfl, by simpa using hnonzero⟩)
  · intro h entry hentry
    obtain ⟨hamount, hnonzero⟩ := mem_nonzero_iff.mp hentry
    have hzero := h entry.1 (Yield.mem_all _)
    rw [← hamount, hnonzero] at hzero
    exact absurd hzero (by decide)

/-- Of each yield, its own amount is shown, if that is not zero. -/
theorem amounts_shown (yield : Yield) :
    (amounts.nonzero.filter (·.1 = yield)).map (·.2) =
      if (amounts.get yield).isZero then [] else [amounts.get yield] := by
  have hone : Yield.all.filter (· = yield) = [yield] := by
    cases yield <;> decide
  have hfilters : (amounts.nonzero.filter (·.1 = yield)).map (·.2) =
      ((Yield.all.filter (· = yield)).filter fun other => !(amounts.get other).isZero).map
        amounts.get := by
    unfold nonzero
    rw [List.filter_map, List.filter_map, List.map_map, List.filter_comm]
    rfl
  rw [hfilters, hone]
  cases hzero : (amounts.get yield).isZero with
  | true => simp [hzero]
  | false => simp [hzero]

/-- Joined terms are no text exactly if there are none. -/
theorem joined_eq_nil_iff {terms : List Term} : Term.joined terms = [] ↔ terms = [] := by
  cases terms with
  | nil => simp [Term.joined]
  | cons term rest => cases rest <;> simp [Term.joined, Term.source, List.intercalate_cons_cons]

/-- **Reading back.** The text of finite yields is empty exactly if they are; otherwise it is
    a token. In either case reading it gives every amount back, as numbers are compared: an
    amount of minus zero comes back as zero. -/
theorem shown_yields_read_back (amounts : Yields)
    (hfinite : ∀ yield, (amounts.get yield).isFinite = true) :
    (amounts.toText = "" ↔ amounts.isEmpty = true) ∧
    (amounts.isEmpty = false → isToken amounts.toText = true) ∧
    ∀ yield, ((ofText amounts.toText).get yield).numEq (amounts.get yield) = true := by
  obtain ⟨terms, hterms, htext⟩ := exists_terms hfinite
  have hwritten := (sources_of_shows hterms).1
  have hnil : terms = [] ↔ amounts.isEmpty = true := by
    rw [← nonzero_eq_nil_iff, ← List.length_eq_zero_iff, ← List.length_eq_zero_iff,
      hterms.length_eq]
  refine ⟨?_, ?_, ?_⟩
  · rw [← hnil, ← joined_eq_nil_iff, ← htext, String.toList_eq_nil_iff]
  · intro hshown
    have hne : terms ≠ [] := by
      rw [Ne, hnil, hshown]
      decide
    unfold isToken
    rw [tokenTerms?_eq_some_iff.mpr ⟨hne, hwritten, htext⟩]
    rfl
  · intro yield
    rw [get_ofText hwritten htext, amounts_of_shows hterms, amounts_shown]
    cases hzero : (amounts.get yield).isZero with
    | true => exact Single.zero_numEq hzero
    | false =>
      have hsum : Single.zero + amounts.get yield = amounts.get yield :=
        Single.zero_add (hfinite yield) hzero
      show (Single.zero + amounts.get yield).numEq _ = true
      rw [hsum]
      exact Single.numEq_self (hfinite yield)

/-- Amounts of both signs, one of them no exact decimal, the smallest one, and minus zero. -/
theorem shown_yields_read_back_mixed :
    let amounts : Yields :=
      { food := .ofDecimal ⟨true, 5, -1⟩, gold := .ofDecimal ⟨false, 1, -1⟩,
        science := .finite true 1 (by decide), faith := -Single.zero }
    (∀ yield, (amounts.get yield).isFinite = true) ∧
      amounts.toText =
        "-0.5 Food, +0.1 Gold, -0.000000000000000000000000000000000000000000001 Science" ∧
      isToken amounts.toText = true ∧
      ∀ yield, ((ofText amounts.toText).get yield).numEq (amounts.get yield) = true := by
  intro amounts
  have hfinite : ∀ yield, (amounts.get yield).isFinite = true := by
    intro yield
    cases yield <;> decide +kernel
  obtain ⟨-, htoken, hback⟩ := shown_yields_read_back amounts hfinite
  exact ⟨hfinite, by decide +kernel, htoken (by decide +kernel), hback⟩

end Yields

end EffectText
