import EffectText.Number.Reading
import Mathlib.Data.Nat.Digits.Defs

/-! # Spelled integers

    Which texts spell an integer, and which integer, said without reading: at most one
    sign, then a **numeral** of one or more ASCII digits (`Spells`).

    Reading an integer of thirty-two bits succeeds on exactly the texts that spell one
    (`int32?_eq_some_iff`).
-/

namespace EffectText

open Text

/-! ## Numerals -/

/-- **Numeral**: at least one character, and only ASCII digits. -/
structure IsNumeral (digits : List Char) : Prop where
  ne_nil : digits ≠ []
  ascii : ∀ c ∈ digits, isAsciiDigit c = true

/-- The value of a numeral in base ten. Its last digit counts ones. -/
def numeralValue (digits : List Char) : Nat :=
  Nat.ofDigits 10 (digits.reverse.map asciiDigitValue)

/-- Digits read from the left weigh what stands in front of them by their number. -/
theorem natFrom_eq_add (start : Nat) (digits : List Char) :
    Decimal.natFrom start digits = start * 10 ^ digits.length + numeralValue digits := by
  induction digits generalizing start with
  | nil => simp [Decimal.natFrom, numeralValue]
  | cons c rest ih =>
    have hvalue : numeralValue (c :: rest) =
        numeralValue rest + 10 ^ rest.length * asciiDigitValue c := by
      unfold numeralValue
      rw [List.reverse_cons, List.map_append, Nat.ofDigits_append]
      simp
    show Decimal.natFrom (10 * start + asciiDigitValue c) rest = _
    rw [ih, hvalue, List.length_cons, Nat.pow_succ]
    ring

theorem natFrom_zero (digits : List Char) :
    Decimal.natFrom 0 digits = numeralValue digits := by
  simp [natFrom_eq_add]

/-! ## Spelled integers -/

/-- **Spelling**: the text is a numeral, or a numeral behind one sign. -/
inductive Spells : List Char → Int → Prop where
  | unsigned {digits : List Char} (h : IsNumeral digits) : Spells digits (numeralValue digits)
  | plus {digits : List Char} (h : IsNumeral digits) :
      Spells ('+' :: digits) (numeralValue digits)
  | minus {digits : List Char} (h : IsNumeral digits) :
      Spells ('-' :: digits) (-(numeralValue digits : Int))

/-- A sign is no digit, so a numeral does not start with one. -/
theorem IsNumeral.not_sign {c : Char} {rest : List Char} (h : IsNumeral (c :: rest)) :
    c ≠ '-' ∧ c ≠ '+' := by
  have hdigit : isAsciiDigit c = true := h.ascii c List.mem_cons_self
  constructor
  · rintro rfl
    exact absurd hdigit (by decide)
  · rintro rfl
    exact absurd hdigit (by decide)

/-- What reading does behind the sign: it tests for a numeral. -/
theorem ite_digits_eq_some_iff {digits : List Char} {m n : Int} :
    (if (digits.isEmpty || !digits.all isAsciiDigit) = true then none else some m) = some n ↔
      IsNumeral digits ∧ m = n := by
  have htest : (digits.isEmpty || !digits.all isAsciiDigit) = false ↔ IsNumeral digits := by
    constructor
    · intro h
      simp only [Bool.or_eq_false_iff, Bool.not_eq_false', List.all_eq_true] at h
      exact ⟨by simpa using h.1, h.2⟩
    · rintro ⟨hne, hascii⟩
      simpa [hne] using hascii
  rw [← htest]
  cases digits.isEmpty || !digits.all isAsciiDigit <;> simp

theorem signedDigits?_minus {digits : List Char} {n : Int} :
    signedDigits? ('-' :: digits) = some n ↔
      IsNumeral digits ∧ -(numeralValue digits : Int) = n := by
  rw [← natFrom_zero]
  exact ite_digits_eq_some_iff

theorem signedDigits?_plus {digits : List Char} {n : Int} :
    signedDigits? ('+' :: digits) = some n ↔
      IsNumeral digits ∧ (numeralValue digits : Int) = n := by
  rw [← natFrom_zero]
  exact ite_digits_eq_some_iff

theorem signedDigits?_unsigned {s : List Char} (hminus : s.head? ≠ some '-')
    (hplus : s.head? ≠ some '+') {n : Int} :
    signedDigits? s = some n ↔ IsNumeral s ∧ (numeralValue s : Int) = n := by
  have hsplit : signedDigits? s =
      if (s.isEmpty || !s.all isAsciiDigit) = true then none
      else some (Decimal.natFrom 0 s : Int) := by
    cases s with
    | nil => rfl
    | cons c rest =>
      have hc : c ≠ '-' ∧ c ≠ '+' := ⟨by simpa using hminus, by simpa using hplus⟩
      simp [signedDigits?, hc.1, hc.2]
  rw [hsplit, ← natFrom_zero]
  exact ite_digits_eq_some_iff

/-- Reading a signed numeral finds what it spells. -/
theorem signedDigits?_eq_some_iff {s : List Char} {n : Int} :
    signedDigits? s = some n ↔ Spells s n := by
  constructor
  · intro h
    by_cases hminus : s.head? = some '-'
    · obtain ⟨digits, rfl⟩ := List.head?_eq_some_iff.mp hminus
      obtain ⟨hnumeral, rfl⟩ := signedDigits?_minus.mp h
      exact .minus hnumeral
    · by_cases hplus : s.head? = some '+'
      · obtain ⟨digits, rfl⟩ := List.head?_eq_some_iff.mp hplus
        obtain ⟨hnumeral, rfl⟩ := signedDigits?_plus.mp h
        exact .plus hnumeral
      · obtain ⟨hnumeral, rfl⟩ := (signedDigits?_unsigned hminus hplus).mp h
        exact .unsigned hnumeral
  · rintro (h | h | h)
    · cases s with
      | nil => exact absurd rfl h.ne_nil
      | cons c rest =>
        obtain ⟨hminus, hplus⟩ := h.not_sign
        exact (signedDigits?_unsigned (by simpa using hminus) (by simpa using hplus)).mpr
          ⟨h, rfl⟩
    · exact signedDigits?_plus.mpr ⟨h, rfl⟩
    · exact signedDigits?_minus.mpr ⟨h, rfl⟩

/-- **Reading** an integer of thirty-two bits succeeds on the texts that spell one. -/
theorem int32?_eq_some_iff {s : List Char} {n : Int} :
    int32? s = some n ↔ Spells s n ∧ -2 ^ 31 ≤ n ∧ n < 2 ^ 31 := by
  have hrange : isInt32 n = true ↔ -2 ^ 31 ≤ n ∧ n < 2 ^ 31 := by
    simp only [isInt32, Bool.and_eq_true, decide_eq_true_eq]
    omega
  unfold int32?
  rw [Option.filter_eq_some_iff, signedDigits?_eq_some_iff, hrange]

end EffectText
