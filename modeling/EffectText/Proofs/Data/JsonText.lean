import EffectText.Data.Json
import EffectText.Proofs.Text.Readers
import Mathlib.Algebra.Group.Int.Defs

/-! # Reading back printed JSON

    Printing and reading are inverse to each other, whatever follows what was printed.

    * **Text**: every character is read back from what is printed for it
      (`textBody_printChar`), so every text is read back (`textReader_printText`).
    * **Integers** that fit in sixty-four bits, with or without a sign, are read back if no
      digit, point or power follows (`number_toString`).
-/

namespace EffectText

open Text

/-! ## Digits of whole numbers -/

theorem isAsciiDigit_of_mem_toDigits {n : Nat} {c : Char} (h : c ∈ Nat.toDigits 10 n) :
    isAsciiDigit c = true := by
  have hdigit : c.isDigit = true := Nat.isDigit_of_mem_toDigits (by decide) (by decide) h
  simpa [Char.isDigit, isAsciiDigit, UInt32.le_iff_toNat_le] using hdigit

/-- Every whole number starts with a digit. -/
theorem exists_cons_toDigits (n : Nat) :
    ∃ d digits, Nat.toDigits 10 n = d :: digits ∧ isAsciiDigit d = true := by
  obtain ⟨d, digits, hdigits⟩ := List.exists_cons_of_ne_nil
    (Nat.toDigits_ne_nil (n := n) (b := 10))
  refine ⟨d, digits, hdigits, isAsciiDigit_of_mem_toDigits (n := n) ?_⟩
  rw [hdigits]
  exact List.mem_cons_self

/-- The digits of a number spell the number. -/
theorem natFrom_toDigits (n : Nat) : Decimal.natFrom 0 (Nat.toDigits 10 n) = n :=
  Nat.ofDigitChars_toDigits (by decide) (by decide)

/-- Only zero starts with a zero. -/
theorem head?_toDigits_ne_zero {n : Nat} (h : 0 < n) : (Nat.toDigits 10 n).head? ≠ some '0' := by
  induction n using Nat.strongRecOn with
  | ind n ih =>
    by_cases hn : n < 10
    · have hdigit : ∀ d < 10, 0 < d → d.digitChar ≠ '0' := by decide
      rw [Nat.toDigits_of_lt_base hn]
      simpa using hdigit n hn h
    · have hfront : (Nat.toDigits 10 (n / 10)).head? ≠ some '0' := ih (n / 10) (by omega) (by omega)
      obtain ⟨d, digits, hdigits, -⟩ := exists_cons_toDigits (n / 10)
      rw [Nat.toDigits_of_base_le (by decide) (by omega), hdigits]
      rwa [hdigits] at hfront

/-- The text of an integer: a minus if it is negative, and the digits of its magnitude. -/
theorem toList_toString (n : Int) :
    (toString n).toList = (if n < 0 then ['-'] else []) ++ Nat.toDigits 10 n.natAbs := by
  show n.repr.toList = _
  rw [Int.repr_eq_if]
  by_cases hn : 0 ≤ n
  · have habs : n.toNat = n.natAbs := by omega
    rw [if_pos hn, if_neg (by omega), habs, Nat.repr_eq_ofList_toDigits, String.toList_ofList]
    rfl
  · have habs : (-n).toNat = n.natAbs := by omega
    rw [if_neg hn, if_pos (by omega), habs, Nat.repr_eq_ofList_toDigits, String.toList_append]
    exact congrArg (['-'] ++ ·) String.toList_ofList

namespace Json

/-! ## Text -/

/-- Reading goes on behind a character that stands for itself. -/
theorem textBody_plain {c : Char} (hquote : c ≠ '"') (hslash : c ≠ '\\') (hc : ¬ c.toNat < 0x20)
    (rest : List Char) :
    textBody (c :: rest) = (textBody rest).map fun (s, after) => (c :: s, after) := by
  rw [textBody]
  · rw [if_neg]
    simp [hc, hslash]
  · simp [hquote]
  · simp [hslash]
  · simp [hslash]

/-- Reading goes on behind four hexadecimal digits of a character that is no half of a
    surrogate pair. -/
theorem textBody_unicode {a b c d : Char} {n : Nat} (hn : hexNumber? [a, b, c, d] = some n)
    (hlow : isLowSurrogate n = false) (hhigh : isHighSurrogate n = false) (rest : List Char) :
    textBody ('\\' :: 'u' :: a :: b :: c :: d :: rest) =
      (textBody rest).map fun (s, after) => (Char.ofNat n :: s, after) := by
  rw [textBody.eq_def]
  simp [hn, hlow, hhigh]

/-- A control character is read back from its number. -/
theorem textBody_control {n : Nat} (hn : n < 0x20) (rest : List Char) :
    textBody (['\\', 'u'] ++ List.replicate (4 - (Nat.toDigits 16 n).length) '0' ++
        Nat.toDigits 16 n ++ rest) =
      (textBody rest).map fun (s, after) => (Char.ofNat n :: s, after) := by
  have hspelled : ∀ n < 0x20, hexNumber? (List.replicate (4 - (Nat.toDigits 16 n).length) '0' ++
      Nat.toDigits 16 n) = some n := by decide
  have hlength : ∀ n < 0x20, (List.replicate (4 - (Nat.toDigits 16 n).length) '0' ++
      Nat.toDigits 16 n).length = 4 := by decide
  have hpair : ∀ n < 0x20, isLowSurrogate n = false ∧ isHighSurrogate n = false := by decide
  obtain ⟨hlow, hhigh⟩ := hpair n hn
  have hvalue := hspelled n hn
  have hfour := hlength n hn
  rw [List.append_assoc ['\\', 'u']]
  -- from here on it only matters that there are four digits, and what they spell
  generalize List.replicate (4 - (Nat.toDigits 16 n).length) '0' ++ Nat.toDigits 16 n = digits
    at hvalue hfour
  match digits, hfour with
  | [a, b, c, d], _ => exact textBody_unicode hvalue hlow hhigh rest

/-- **Characters** are read back from what is printed for them. -/
theorem textBody_printChar (c : Char) (rest : List Char) :
    textBody (printChar c ++ rest) =
      (textBody rest).map fun (s, after) => (c :: s, after) := by
  unfold printChar
  split
  · next h => subst h; rfl
  split
  · next h => subst h; rfl
  split
  · next h => subst h; rfl
  split
  · next h => subst h; rfl
  split
  · next h => subst h; rfl
  split
  · next h => subst h; rfl
  split
  · next h => subst h; rfl
  split
  · next h =>
    dsimp only
    rw [textBody_control h, Char.ofNat_toNat]
  · next hquote hslash _ _ _ _ _ hc => exact textBody_plain hquote hslash hc rest

/-- The characters of a text are read back, up to the closing quote. -/
theorem textBody_printed (s rest : List Char) :
    textBody (s.flatMap printChar ++ '"' :: rest) = some (s, rest) := by
  induction s with
  | nil => rfl
  | cons c s ih =>
    rw [List.flatMap_cons, List.append_assoc, textBody_printChar, ih]
    rfl

theorem toList_printText_append (s : String) (rest : List Char) :
    (printText s).toList ++ rest = '"' :: (s.toList.flatMap printChar ++ '"' :: rest) := by
  simp [printText]

/-- **Texts** are read back, whatever follows. -/
theorem textReader_printText (s : String) (rest : List Char) :
    textReader ((printText s).toList ++ rest) = some (s, rest) := by
  have hquote : Reader.char '"' ('"' :: (s.toList.flatMap printChar ++ '"' :: rest)) =
      some ((), s.toList.flatMap printChar ++ '"' :: rest) := Reader.char_eq_some_iff.mpr rfl
  unfold textReader
  rw [toList_printText_append, Reader.bind_of_eq_some hquote,
    Reader.bind_of_eq_some (textBody_printed s.toList rest), String.ofList_toList]
  rfl

/-! ## Blanks -/

/-- In front of anything but a blank, nothing is passed over. -/
theorem blank_of_head {c : Char} (hc : c ∉ [' ', '\t', '\n', '\r']) (rest : List Char) :
    blank (c :: rest) = some ((), c :: rest) := by
  have hstop : ¬ (c == ' ' || c == '\t' || c == '\n' || c == '\r') = true := by
    simpa [and_assoc] using hc
  show some ((), (c :: rest).dropWhile _) = _
  rw [List.dropWhile_cons, if_neg hstop]

/-- No blank stands in front of a printed text. -/
theorem blank_printText (s : String) (rest : List Char) :
    blank ((printText s).toList ++ rest) = some ((), (printText s).toList ++ rest) := by
  rw [toList_printText_append]
  exact blank_of_head (by decide) _

/-- No blank stands in front of a printed integer. -/
theorem blank_toString (n : Int) (rest : List Char) :
    blank ((toString n).toList ++ rest) = some ((), (toString n).toList ++ rest) := by
  rw [toList_toString]
  split
  · exact blank_of_head (by decide) _
  · obtain ⟨d, digits, hdigits, hd⟩ := exists_cons_toDigits n.natAbs
    rw [hdigits]
    exact blank_of_head (Reader.not_mem_of_all_not (by decide) hd) _

/-! ## Integers -/

/-- The digits of a whole number are taken up to a character that is no digit. -/
theorem wholeDigits_toDigits (n : Nat) {rest : List Char}
    (hrest : ∀ c ∈ rest.head?, isAsciiDigit c = false) :
    wholeDigits (Nat.toDigits 10 n ++ rest) = some (Nat.toDigits 10 n, rest) := by
  have hspan : Reader.spanOne isAsciiDigit (Nat.toDigits 10 n ++ rest) =
      some (Nat.toDigits 10 n, rest) :=
    Reader.spanOne_eq_some_iff.mpr
      ⟨Nat.toDigits_ne_nil, rfl, fun c => isAsciiDigit_of_mem_toDigits, hrest⟩
  have hguard : ¬ ((Nat.toDigits 10 n).head? = some '0' &&
      (Nat.toDigits 10 n).length > 1) = true := by
    rw [Bool.and_eq_true, decide_eq_true_eq, decide_eq_true_eq]
    rintro ⟨hhead, hlength⟩
    rcases Nat.eq_zero_or_pos n with rfl | hpos
    · exact absurd hlength (by decide)
    · exact head?_toDigits_ne_zero hpos hhead
  unfold wholeDigits
  rw [Reader.bind_of_eq_some hspan]
  dsimp only
  rw [if_neg hguard]
  rfl

/-- **Ends a number**: nothing that a number could go on with comes first. -/
def EndsNumber (rest : List Char) : Prop :=
  ∀ c ∈ rest.head?, isAsciiDigit c = false ∧ c ∉ ['.', 'e', 'E']

/-- The parts of a printed integer: perhaps a minus, and digits. -/
theorem numeral_toString (n : Int) {rest : List Char} (hrest : EndsNumber rest) :
    numeral ((toString n).toList ++ rest) =
      some (⟨decide (n < 0), Nat.toDigits 10 n.natAbs, none, none⟩, rest) := by
  have hminus : Reader.optional (Reader.char '-') ((toString n).toList ++ rest) =
      some (if n < 0 then some () else none, Nat.toDigits 10 n.natAbs ++ rest) := by
    rw [toList_toString]
    split
    · exact Reader.optional_of_eq_some (Reader.char_eq_some_iff.mpr rfl)
    · obtain ⟨d, digits, hdigits, hd⟩ := exists_cons_toDigits n.natAbs
      refine Reader.optional_of_eq_none (Reader.char_eq_none_iff.mpr ?_)
      rw [List.nil_append, hdigits]
      rintro ⟨⟩
      exact absurd hd (by decide)
  have hwhole := wholeDigits_toDigits n.natAbs fun c hc => (hrest c hc).1
  have hfraction : Reader.optional (do Reader.char '.'; Reader.spanOne isAsciiDigit) rest =
      some (none, rest) := by
    refine Reader.optional_of_eq_none (Reader.bind_of_eq_none (Reader.char_eq_none_iff.mpr ?_))
    intro hhead
    exact (hrest '.' hhead).2 (by decide)
  have hpower : Reader.optional Reader.power rest = some (none, rest) := by
    refine Reader.optional_of_eq_none (Reader.bind_of_eq_none (Reader.satisfy_eq_none_iff.mpr ?_))
    intro c hc
    have hletter := (hrest c hc).2
    simp at hletter
    simp [hletter]
  unfold numeral
  rw [Reader.bind_of_eq_some hminus, Reader.bind_of_eq_some hwhole,
    Reader.bind_of_eq_some hfraction, Reader.bind_of_eq_some hpower]
  have hsign : (if n < 0 then some () else none).isSome = decide (n < 0) := by
    split
    · next hn => simp [hn]
    · next hn => simp [hn]
  rw [hsign]
  rfl

/-- **Integers** of sixty-four bits, with or without a sign, are read back if nothing
    follows that a number could go on with. -/
theorem number_toString {n : Int} (hlow : -2 ^ 63 ≤ n) (hhigh : n < 2 ^ 64) {rest : List Char}
    (hrest : EndsNumber rest) :
    number ((toString n).toList ++ rest) = some (.integer n, rest) := by
  have hvalue : (Numeral.mk (decide (n < 0)) (Nat.toDigits 10 n.natAbs) none none).value? =
      some (.integer n) := by
    unfold Numeral.value? Numeral.integer?
    rw [natFrom_toDigits]
    by_cases hn : n < 0
    · obtain ⟨m, rfl⟩ : ∃ m : Nat, n = -(m : Int) := ⟨n.natAbs, by omega⟩
      have hm : (-(m : Int)).natAbs = m := by omega
      have hrange : 0 < m ∧ m ≤ Nat.pow 2 63 := by
        have : Nat.pow 2 63 = 2 ^ 63 := rfl
        omega
      rw [hm, decide_eq_true hn]
      simp [hrange]
    · obtain ⟨m, rfl⟩ : ∃ m : Nat, n = m := ⟨n.natAbs, by omega⟩
      have hrange : m < Nat.pow 2 64 := by
        have : Nat.pow 2 64 = 2 ^ 64 := rfl
        omega
      rw [Int.natAbs_natCast, decide_eq_false hn]
      simp [hrange]
  unfold number
  rw [Reader.bind_of_eq_some (numeral_toString n hrest), hvalue]
  rfl

end Json

end EffectText
