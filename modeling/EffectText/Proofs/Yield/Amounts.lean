import EffectText.Number.Reading
import EffectText.Proofs.Yield.Written

/-! # Amounts of tokens

    A token is recognized by its decimal digits, which may be of any script. The amounts of
    its terms are read as numbers, and a number has ASCII digits only. A term whose amount
    is no number adds nothing.

    * The amount of a written term is a number exactly if all its digits are ASCII digits
      (`Term.readable_iff`).
    * The yields of a text are sums of the amounts that are numbers, each yield by itself
      (`Yields.get_ofText`).
    * So a token is **read completely** exactly if all its digits are ASCII digits
      (`Yields.token_reads_completely_iff`).
-/

namespace EffectText

open Text

/-! ## Decimals -/

namespace Reader

/-- What may stand in a decimal without its sign. -/
def IsDecimalPart (c : Char) : Prop :=
  isAsciiDigit c = true ∨ c ∈ ['.', 'e', 'E', '-', '+']

theorem sign_takesOnly : TakesOnly IsDecimalPart sign :=
  .orElse (.bind (.char (.inr (by decide))) fun _ => .pure true)
    (.orElse (.bind (.char (.inr (by decide))) fun _ => .pure false) (.pure false))

theorem power_takesOnly : TakesOnly IsDecimalPart power := by
  refine .bind (.satisfy fun c hc => ?_) fun _ => .bind sign_takesOnly fun _ =>
    .bind (.spanOne fun c hc => .inl hc) fun _ => .pure _
  rw [Bool.or_eq_true, beq_iff_eq, beq_iff_eq] at hc
  rcases hc with rfl | rfl
  · exact .inr (by decide)
  · exact .inr (by decide)

theorem decimal_takesOnly (negative : Bool) : TakesOnly IsDecimalPart (decimal negative) := by
  have hdigits : TakesOnly IsDecimalPart (span isAsciiDigit) := .span fun c hc => .inl hc
  have hpoint : TakesOnly IsDecimalPart (do char '.'; span isAsciiDigit) :=
    .bind (.char (.inr (by decide))) fun _ => hdigits
  refine .bind hdigits fun whole => .bind (.orElse hpoint (.pure [])) fun fraction => ?_
  have hpower : TakesOnly IsDecimalPart (do
      let shift ← optional power
      return (Decimal.ofDigits negative whole fraction).shift (shift.getD 0)) :=
    .bind (.optional power_takesOnly) fun _ => .pure _
  dsimp only
  split
  · exact .bind .failure fun _ => hpower
  · exact hpower

/-- Without a sign a number is positive, and nothing is taken. -/
theorem sign_of_no_sign {s : List Char} (hminus : s.head? ≠ some '-') (hplus : s.head? ≠ some '+') :
    sign s = some (false, s) := by
  unfold sign
  rw [orElse_of_eq_none (bind_of_eq_none (char_eq_none_iff.mpr hminus)),
    orElse_of_eq_none (bind_of_eq_none (char_eq_none_iff.mpr hplus))]
  rfl

/-- A decimal that ends with its digits, or with its digits behind a point. -/
theorem decimal_of_digits {negative : Bool} {s whole fraction rest : List Char}
    (hwhole : span isAsciiDigit s = some (whole, rest)) (hne : whole ≠ [])
    (hfraction : ((do char '.'; span isAsciiDigit) <|> return []) rest = some (fraction, [])) :
    decimal negative s = some (.ofDigits negative whole fraction, []) := by
  unfold decimal
  rw [bind_of_eq_some hwhole, bind_of_eq_some hfraction]
  have hguard : ¬ (whole.isEmpty && fraction.isEmpty) = true := by simp [hne]
  dsimp only
  -- at the end there is no power, so the point stays where it is
  have hpower : optional power [] = some (none, []) := optional_of_eq_none rfl
  rw [if_neg hguard, bind_of_eq_some hpower]
  simp [Decimal.shift]
  rfl

end Reader

/-- Every word for a number has an `n`, so a text without one spells a decimal or nothing. -/
theorem Single.ofText?_of_no_word {s : List Char} (hminus : s.head? ≠ some '-')
    (hplus : s.head? ≠ some '+') (hletter : 'n' ∉ Single.lowered s) :
    Single.ofText? (String.ofList s) =
      (Reader.readAll (Reader.decimal false) s).map Single.ofDecimal := by
  have hwords : ∀ word ∈ ["inf".toList, "infinity".toList, "nan".toList], 'n' ∈ word := by decide
  have hword : ∀ word ∈ ["inf".toList, "infinity".toList, "nan".toList],
      Single.lowered s ≠ word := by
    rintro word hin rfl
    exact hletter (hwords _ hin)
  have hinf := hword "inf".toList (by decide)
  have hinfinity := hword "infinity".toList (by decide)
  have hnan := hword "nan".toList (by decide)
  unfold Single.ofText?
  rw [String.toList_ofList, Reader.sign_of_no_sign hminus hplus]
  simp only [hinf, hinfinity, hnan, decide_false, Bool.or_self, Bool.false_eq_true, if_false]

namespace Term

/-- A written amount whose digits are all ASCII digits is read as a decimal, to its end. -/
theorem readAll_decimal_magnitude {term : Term} (h : term.IsWritten)
    (hascii : ∀ c ∈ term.digits, isAsciiDigit c = true) (negative : Bool) :
    Reader.readAll (Reader.decimal negative) term.magnitude =
      some (.ofDigits negative term.whole (term.fraction.getD [])) := by
  rw [Reader.readAll_eq_some_iff]
  obtain ⟨hwhole, hplaces⟩ := List.forall_mem_append.mp hascii
  unfold magnitude
  cases hfraction : term.fraction with
  | none =>
    have hspan : Reader.span isAsciiDigit term.whole = some (term.whole, []) :=
      Reader.span_eq_some_iff.mpr ⟨(List.append_nil _).symm, hwhole, by simp⟩
    exact Reader.decimal_of_digits hspan h.whole_ne_nil rfl
  | some places =>
    rw [hfraction] at hplaces
    have hspan : Reader.span isAsciiDigit (term.whole ++ '.' :: places) =
        some (term.whole, '.' :: places) :=
      Reader.span_eq_some_iff.mpr ⟨rfl, hwhole, by simp [isAsciiDigit]⟩
    have hrest : Reader.span isAsciiDigit places = some (places, []) :=
      Reader.span_eq_some_iff.mpr ⟨(List.append_nil _).symm, hplaces, by simp⟩
    have hpoint : Reader.char '.' ('.' :: places) = some ((), places) :=
      Reader.char_eq_some_iff.mpr rfl
    refine Reader.decimal_of_digits hspan h.whole_ne_nil (Reader.orElse_of_eq_some ?_)
    rw [Reader.bind_of_eq_some hpoint]
    exact hrest

/-- No letter stands in an amount. -/
theorem lowered_magnitude {term : Term} (h : term.IsWritten) :
    Single.lowered term.magnitude = term.magnitude := by
  have hzeros : ∀ start ∈ decimalZeros, start + 10 ≤ 65 ∨ 90 < start := by decide
  have hsame : ∀ c ∈ term.magnitude, c.toLower = c := by
    intro c hc
    rcases mem_magnitude_iff.mp hc with hdigit | ⟨-, rfl⟩
    · -- no run of ten digits meets the upper-case letters
      obtain ⟨start, hstart, hrun⟩ := List.any_eq_true.mp (h.digits c hdigit)
      rw [Bool.and_eq_true, decide_eq_true_eq, decide_eq_true_eq] at hrun
      have hlower : ¬ (65 ≤ c.toNat ∧ c.toNat ≤ 90) := by
        have := hzeros start hstart
        omega
      unfold Char.toLower
      rw [dif_neg]
      exact hlower
    · rfl
  unfold Single.lowered
  rw [List.map_congr_left hsame, List.map_id']

/-- An amount whose digits are all ASCII digits is read as a number, and any other amount
    is refused. -/
theorem ofText?_magnitude {term : Term} (h : term.IsWritten) :
    Single.ofText? (String.ofList term.magnitude) =
      if term.digits.all isAsciiDigit then
        some (Single.ofDecimal (.ofDigits false term.whole (term.fraction.getD [])))
      else none := by
  have hminus : '-' ∉ term.magnitude := not_mem_magnitude h (by decide) (by decide)
  have hplus : '+' ∉ term.magnitude := not_mem_magnitude h (by decide) (by decide)
  have hletter : 'n' ∉ term.magnitude := not_mem_magnitude h (by decide) (by decide)
  rw [Single.ofText?_of_no_word (fun hhead => hminus (List.mem_of_head? hhead))
    (fun hhead => hplus (List.mem_of_head? hhead)) (by rwa [lowered_magnitude h])]
  split
  · next hascii =>
    rw [readAll_decimal_magnitude h (List.all_eq_true.mp hascii)]
    rfl
  · next hother =>
    rw [Option.map_eq_none_iff, Option.eq_none_iff_forall_ne_some]
    intro d hread
    -- what was read has ASCII digits only, for no other digit may stand in a decimal
    apply hother
    rw [List.all_eq_true]
    intro c hc
    rcases (Reader.decimal_takesOnly false).of_readAll hread c
      (mem_magnitude_iff.mpr (.inl hc)) with hdigit | hmark
    · exact hdigit
    · exact absurd hmark (Reader.not_mem_of_all_not (by decide) (h.digits c hc))

/-- The signed amount, as the reader of numbers gives it. -/
def signedAmount? (term : Term) : Option Single :=
  (Single.ofText? (String.ofList term.magnitude)).map fun amount =>
    if term.negative then -amount else amount

theorem amount?_eq {term : Term} (h : term.IsWritten) : term.amount? = term.signedAmount? := by
  unfold amount? signedAmount?
  rw [ofText?_magnitude h]
  split <;> rfl

/-- **Readable** amounts are those that are written in ASCII digits. -/
theorem readable_iff {term : Term} (h : term.IsWritten) :
    (Single.ofText? (String.ofList term.magnitude)).isSome = true ↔
      ∀ c ∈ term.digits, isAsciiDigit c = true := by
  rw [ofText?_magnitude h, ← List.all_eq_true]
  split
  · next hascii => simp [hascii]
  · next hother => simp [hother]

end Term

namespace Yields

/-! ## Sums -/

/-- **Adding** amounts one by one gives for each yield the sum of its own amounts. -/
theorem get_addAll (amounts : Yields) (terms : List (Yield × Single)) (yield : Yield) :
    (amounts.addAll terms).get yield =
      ((terms.filter (·.1 = yield)).map (·.2)).foldl (· + ·) (amounts.get yield) := by
  unfold addAll
  induction terms generalizing amounts with
  | nil => rfl
  | cons term rest ih =>
    rw [List.foldl_cons, ih]
    by_cases hyield : term.1 = yield
    · rw [List.filter_cons_of_pos (by simpa using hyield), List.map_cons, List.foldl_cons,
        ← hyield, get_addTo_self]
    · rw [List.filter_cons_of_neg (by simpa using hyield), get_addTo_ne _ _ _ _ (Ne.symm hyield)]

/-- A written term gives its signed amount to the yield that it names, or nothing to any. -/
theorem amounts_of_yield {terms : List Term} (h : ∀ term ∈ terms, term.IsWritten)
    (yield : Yield) :
    ((terms.filterMap Term.value?).filter (·.1 = yield)).map (·.2) =
      (terms.filter (·.yield = yield)).filterMap Term.signedAmount? := by
  induction terms with
  | nil => rfl
  | cons term rest ih =>
    obtain ⟨hterm, hrest⟩ := List.forall_mem_cons.mp h
    have hvalue : term.value? = term.signedAmount?.map (term.yield, ·) := by
      rw [Term.value?, Term.amount?_eq hterm]
    have hothers := ih hrest
    cases hamount : term.signedAmount? with
    | none => by_cases hyield : term.yield = yield <;> simp [hvalue, hamount, hyield, hothers]
    | some amount =>
      by_cases hyield : term.yield = yield <;> simp [hvalue, hamount, hyield, hothers]

/-- **Yields of a text**: each is the sum of those of its amounts that are numbers. -/
theorem get_ofText {text : String} {terms : List Term} (h : ∀ term ∈ terms, term.IsWritten)
    (htext : text.toList = Term.joined terms) (yield : Yield) :
    (ofText text).get yield =
      ((terms.filter (·.yield = yield)).filterMap Term.signedAmount?).foldl (· + ·) .zero := by
  unfold ofText
  rw [htext, Term.all_joined h, get_addAll, get_none, amounts_of_yield h]

/-! ## Tokens -/

/-- **Written as** terms: there is at least one, all are written terms, and the text is
    theirs, joined by a comma and a space each. -/
structure WrittenAs (text : String) (terms : List Term) : Prop where
  ne_nil : terms ≠ []
  written : ∀ term ∈ terms, term.IsWritten
  toList_eq : text.toList = Term.joined terms

theorem writtenAs_iff {text : String} {terms : List Term} :
    WrittenAs text terms ↔ tokenTerms? text.toList = some terms := by
  rw [tokenTerms?_eq_some_iff]
  constructor
  · rintro ⟨hne, hwritten, htext⟩
    exact ⟨hne, hwritten, htext⟩
  · rintro ⟨hne, hwritten, htext⟩
    exact ⟨hne, hwritten, htext⟩

/-- **Read completely**: no term of the text is passed over. -/
structure ReadsCompletely (text : String) (terms : List Term) : Prop where
  /-- Every amount is read as a number. -/
  readable : ∀ term ∈ terms, (Single.ofText? (String.ofList term.magnitude)).isSome = true
  /-- Each yield is the sum, from zero and from left to right, of the signed amounts of the
      terms that name it. -/
  sums : ∀ yield, ∃ amounts : List Single,
    (terms.filter (·.yield = yield)).map Term.signedAmount? = amounts.map some ∧
      (ofText text).get yield = amounts.foldl (· + ·) .zero

/-- **Complete reading.** A token is written as the same terms only. It is read completely
    exactly if all its digits are ASCII digits; in any case each yield is the sum of those
    of its amounts that are numbers. -/
theorem token_reads_completely_iff {text : String} (h : isToken text = true) :
    ∃ terms, (∀ others, WrittenAs text others ↔ others = terms) ∧
      (ReadsCompletely text terms ↔
        ∀ c ∈ text.toList, isDecimalDigit c = true → isAsciiDigit c = true) ∧
      ∀ yield, (ofText text).get yield =
        ((terms.filter (·.yield = yield)).filterMap Term.signedAmount?).foldl (· + ·) .zero := by
  obtain ⟨terms, hterms⟩ := Option.isSome_iff_exists.mp h
  obtain ⟨hne, hwritten, htext⟩ := writtenAs_iff.mpr hterms
  have hsums := get_ofText hwritten htext
  refine ⟨terms, ?_, ?_, hsums⟩
  · intro others
    rw [writtenAs_iff, hterms, Option.some.injEq, eq_comm]
  · constructor
    · intro hcomplete c hc hdigit
      rw [htext] at hc
      obtain ⟨term, hterm, hin⟩ := (Term.mem_joined_iff hdigit).mp hc
      exact (Term.readable_iff (hwritten term hterm)).mp (hcomplete.readable term hterm) c hin
    · intro hascii
      have hreadable : ∀ term ∈ terms,
          (Single.ofText? (String.ofList term.magnitude)).isSome = true := by
        intro term hterm
        rw [Term.readable_iff (hwritten term hterm)]
        intro c hc
        have hdigit := (hwritten term hterm).digits c hc
        refine hascii c ?_ hdigit
        rw [htext]
        exact (Term.mem_joined_iff hdigit).mpr ⟨term, hterm, hc⟩
      -- as every amount is a number, leaving out those that are none leaves out nothing
      refine ⟨hreadable, fun yield => ⟨_, ?_, hsums yield⟩⟩
      rw [List.map_filterMap_some_eq_filter_map_isSome, eq_comm, List.filter_eq_self]
      intro amount hamount
      obtain ⟨term, hterm, rfl⟩ := List.mem_map.mp hamount
      have hnumber := hreadable term (List.mem_filter.mp hterm).1
      unfold Term.signedAmount?
      rwa [Option.isSome_map]

/-- In a token with digits of two scripts, the amount in the other script is passed over. -/
theorem token_reads_completely_mixed :
    ∃ terms, WrittenAs "+1.5 Gold, -\u0662 Food, +2 Gold" terms ∧
      ¬ ReadsCompletely "+1.5 Gold, -\u0662 Food, +2 Gold" terms := by
  have htoken : isToken "+1.5 Gold, -\u0662 Food, +2 Gold" = true := by decide +kernel
  obtain ⟨terms, hwritten, hcomplete, -⟩ := token_reads_completely_iff htoken
  refine ⟨terms, (hwritten terms).mpr rfl, ?_⟩
  rw [hcomplete]
  intro hascii
  exact absurd (hascii '\u0662' (by decide) (by decide)) (by decide)

/-- A token of one term with an Arabic digit is recognized, but yields nothing. -/
theorem token_passed_over :
    isToken "+\u0663 Gold" = true ∧ Single.ofText? "\u0663" = Option.none ∧
      (ofText "+\u0663 Gold").get .gold = .zero ∧
      ¬ ∀ (text : String) (terms : List Term), isToken text = true → WrittenAs text terms →
        ReadsCompletely text terms := by
  have htoken : isToken "+\u0663 Gold" = true := by decide +kernel
  have hrefused : Single.ofText? "\u0663" = Option.none := by decide +kernel
  have hzero : (ofText "+\u0663 Gold").get .gold = .zero := by decide +kernel
  refine ⟨htoken, hrefused, hzero, fun hall => ?_⟩
  have hwritten : WrittenAs "+\u0663 Gold" [⟨false, ['\u0663'], Option.none, .gold⟩] :=
    writtenAs_iff.mpr (by decide +kernel)
  have hcomplete := hall _ _ htoken hwritten
  have hread := hcomplete.readable _ List.mem_cons_self
  exact absurd (hread.symm.trans (congrArg Option.isSome hrefused)) (by decide)

end Yields

end EffectText
