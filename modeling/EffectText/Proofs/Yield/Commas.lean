import EffectText.Proofs.Yield.Written

/-! # Yields at commas

    No character of a term is a comma, so no term lies across one. Whatever stands behind a
    comma, the terms in front of it are found as if the text ended there (`Term.read_comma`),
    and behind it the search starts afresh (`Term.all_comma`). A comma with a space behind it
    ends a part of a token wherever it stands (`commaParts_comma`).

    * `Yields.tokens_compose_at_commas`: what two texts are as tokens, and what terms they
      have, tells it for the two with a comma between them.
-/

namespace EffectText

open Text

/-! ## Terms -/

namespace Term

/-- **Reading** in front of a comma takes the term that it takes at the end of a text. -/
theorem read_comma (front rest : List Char) :
    read (front ++ ',' :: rest) =
      (read front).map fun (term, mid) => (term, mid ++ ',' :: rest) := by
  cases hfront : read front with
  | some found =>
    obtain ⟨term, mid⟩ := found
    obtain ⟨hwritten, rfl⟩ := read_eq_some_iff.mp hfront
    rw [List.append_assoc]
    exact read_source hwritten _
  | none =>
    show read (front ++ ',' :: rest) = none
    rw [Option.eq_none_iff_forall_ne_some]
    rintro ⟨term, mid⟩ hread
    obtain ⟨hwritten, heq⟩ := read_eq_some_iff.mp hread
    -- the term ends in front of the comma, or the comma is part of it
    rcases List.append_eq_append_iff.mp heq with ⟨behind, hsource, hcomma⟩ | ⟨behind, hshort, -⟩
    · cases behind with
      | nil =>
        have hwhole : front = term.source ++ [] := by simpa using hsource.symm
        have hread : read front = some (term, []) := read_eq_some_iff.mpr ⟨hwritten, hwhole⟩
        simp [hfront] at hread
      | cons c behind =>
        obtain ⟨rfl, -⟩ := List.cons.inj hcomma
        have hin : ',' ∈ term.source := by
          rw [hsource]
          simp
        exact no_comma_in_source hwritten hin
    · have hread : read front = some (term, behind) := read_eq_some_iff.mpr ⟨hwritten, hshort⟩
      simp [hfront] at hread

/-- **Searching** finds the terms in front of a comma, then those behind it. -/
theorem all_comma (front rest : List Char) : all (front ++ ',' :: rest) = all front ++ all rest := by
  induction front with
  | nil =>
    have hcomma : ∀ c ∈ [','], c ≠ '+' ∧ c ≠ '-' := by simp
    exact all_append_of_no_sign hcomma rest
  | cons c front ih =>
    have hread := read_comma (c :: front) rest
    rw [List.cons_append] at hread ⊢
    rw [all, all, hread]
    -- at every character a term is found with the comma exactly if one is found without it
    cases read (c :: front) with
    | none => exact ih
    | some found => exact congrArg (found.1 :: ·) ih

end Term

/-! ## Parts -/

/-- A comma with a space ends a part, whatever stands in front of it. -/
theorem commaParts_comma (front rest : List Char) :
    commaParts (front ++ ',' :: ' ' :: rest) = commaParts front ++ commaParts rest := by
  fun_induction commaParts front with
  | case1 front ih =>
    show commaParts (',' :: ' ' :: (front ++ ',' :: ' ' :: rest)) = _
    rw [commaParts, ih]
    rfl
  | case2 c front _ hnil => exact absurd hnil (commaParts_ne_nil front)
  | case3 c front hseparator part others heq ih =>
    rw [heq] at ih
    rw [List.cons_append, commaParts, ih]
    · rfl
    -- a comma in front of the new one is not the first half of a separator
    · intro tail hc htail
      cases front with
      | nil => simp at htail
      | cons d front =>
        obtain ⟨hd, -⟩ := List.cons.inj htail
        exact hseparator front hc (by rw [hd])
  | case4 => simp [commaParts]

namespace Yields

/-- The terms of a token with a comma in it are those of its two sides. -/
theorem tokenTerms?_comma_eq_some_iff {front rest : List Char} {terms : List Term} :
    tokenTerms? (front ++ ',' :: ' ' :: rest) = some terms ↔
      ∃ first second, tokenTerms? front = some first ∧ tokenTerms? rest = some second ∧
        terms = first ++ second := by
  unfold tokenTerms?
  rw [commaParts_comma, List.mapM_append]
  simp only [Option.bind_eq_bind, Option.bind_eq_some_iff, Option.pure_def, Option.some.injEq]
  constructor
  · rintro ⟨first, hfirst, second, hsecond, rfl⟩
    exact ⟨first, second, hfirst, hsecond, rfl⟩
  · rintro ⟨first, second, hfirst, hsecond, rfl⟩
    exact ⟨first, hfirst, second, hsecond, rfl⟩

theorem isToken_comma_iff (a b : String) :
    isToken (a ++ ", " ++ b) = true ↔ isToken a = true ∧ isToken b = true := by
  have hchars : (a ++ ", " ++ b).toList = a.toList ++ ',' :: ' ' :: b.toList := by simp
  unfold isToken
  rw [hchars]
  simp only [Option.isSome_iff_exists, tokenTerms?_comma_eq_some_iff]
  constructor
  · rintro ⟨_, first, second, hfirst, hsecond, -⟩
    exact ⟨⟨first, hfirst⟩, ⟨second, hsecond⟩⟩
  · rintro ⟨⟨first, hfirst⟩, ⟨second, hsecond⟩⟩
    exact ⟨_, first, second, hfirst, hsecond, rfl⟩

/-! ## Sums -/

theorem addAll_append (amounts : Yields) (first second : List (Yield × Single)) :
    amounts.addAll (first ++ second) = (amounts.addAll first).addAll second := by
  unfold addAll
  rw [List.foldl_append]

/-- **Composition at commas.** Whatever two texts are, with a comma and a space between them
    they are a token exactly if each of them is one. With a comma between them, the terms of
    the whole are those of the first and then those of the second, so its yields are those
    of the first with the amounts of the second added in order. -/
theorem tokens_compose_at_commas (a b : String) :
    (isToken (a ++ ", " ++ b) = true ↔ isToken a = true ∧ isToken b = true) ∧
    Term.all (a ++ "," ++ b).toList = Term.all a.toList ++ Term.all b.toList ∧
    ofText (a ++ "," ++ b) = (ofText a).addAll ((Term.all b.toList).filterMap Term.value?) := by
  have hchars : (a ++ "," ++ b).toList = a.toList ++ ',' :: b.toList := by simp
  have hterms : Term.all (a ++ "," ++ b).toList = Term.all a.toList ++ Term.all b.toList := by
    rw [hchars, Term.all_comma]
  refine ⟨isToken_comma_iff a b, hterms, ?_⟩
  unfold ofText
  rw [hterms, List.filterMap_append, addAll_append]

end Yields

end EffectText
