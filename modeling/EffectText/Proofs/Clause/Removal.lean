import EffectText.Proofs.Clause.Filling
import EffectText.Proofs.Text.BracketShape
import EffectText.Proofs.Text.Trimming

/-! # Removing conditions once and for all

    The main clause of a text may hold a condition again: removing `<b>` from `<a <b> c>`
    leaves `<a c>`. The removal is final exactly when no angle brackets of the text
    enclose one or more pairs and nothing else, and what it leaves is always tidy
    (`removal_is_final_iff`).

    Extraction loses nothing of the main clause, so filling what was extracted gives the
    main clause back, and extracting again is stable under the same condition
    (`extract_fill_extract_iff`).
-/

namespace EffectText.Clause

open Text

/-! ## Main clauses -/

theorem not_angle_of_isBlank (c : Char) (hc : isBlank c = true) :
    Delimiters.angle.isBracket c = false := by
  have hopening : c ≠ '<' := by
    rintro rfl
    exact absurd hc (by decide)
  have hclosing : c ≠ '>' := by
    rintro rfl
    exact absurd hc (by decide)
  simp [Delimiters.isBracket, Delimiters.angle, hopening, hclosing]

/-- A main clause is tidy. -/
theorem tidy_mainChars (text : List Char) : tidy (mainChars text) = mainChars text :=
  tidy_tidy _

/-- A main clause has the angle brackets that stand outside the conditions. -/
theorem brackets_mainChars (text : List Char) :
    brackets .angle (mainChars text) = brackets .angle (literals (segments .angle text)) :=
  filter_tidy not_angle_of_isBlank _

/-- Each group of a cut takes two brackets of its text. -/
theorem length_brackets_source {d : Delimiters} {segs : List Segment} (h : IsCut d segs) :
    (brackets d (source d segs)).length =
      (brackets d (literals segs)).length + 2 * (groups segs).length := by
  induction h with
  | nil => rfl
  | @literal c rest _ _ ih =>
    by_cases hc : d.isBracket c = true
    · simp [source, literals, groups, brackets, hc] at ih ⊢
      omega
    · simp [source, literals, groups, brackets, hc] at ih ⊢
      omega
  | group free _ ih =>
    simp [source, literals, groups, brackets_of_unbracketed free]
    omega

/-- Removing conditions from a main clause changes nothing exactly when it has none. -/
theorem mainChars_mainChars_iff (text : List Char) :
    mainChars (mainChars text) = mainChars text ↔
      groups (segments .angle (mainChars text)) = [] := by
  constructor
  · intro heq
    -- counting brackets: the main clause keeps those outside its own groups
    have hcount := length_brackets_source (d := .angle) (isCut_segments (mainChars text))
    rw [source_segments, ← brackets_mainChars, heq] at hcount
    rw [← List.length_eq_zero_iff]
    omega
  · intro hnil
    have hliterals : literals (segments .angle (mainChars text)) = mainChars text := by
      rw [literals_eq_source hnil, source_segments]
    show tidy (literals (segments .angle (mainChars text))) = mainChars text
    rw [hliterals, tidy_mainChars]

/-- Removing conditions is final unless angle brackets enclose one or more pairs. -/
theorem main_main_iff (text : String) :
    main (main text) = main text ↔
      ∀ n, 0 < n → ¬ enclosedPairs .angle n <:+: brackets .angle text.toList := by
  have hchars : main (main text) = main text ↔
      mainChars (mainChars text.toList) = mainChars text.toList := by
    unfold main
    rw [String.toList_ofList, String.ofList_inj]
  rw [hchars, mainChars_mainChars_iff, groups_segments_eq_nil_iff, brackets_mainChars,
    pair_infix_literals_iff]
  simp

/-- What removing conditions leaves is tidy. -/
theorem isTidy_main (text : String) : IsTidy (main text).toList := by
  unfold main
  rw [String.toList_ofList]
  exact isTidy_tidy _

/-- **Final removal.** Removing the conditions of a text a second time changes nothing
    exactly if, among its angle brackets, no two enclose one or more pairs and nothing else.
    What a removal leaves never starts or ends with a blank, and all its blanks are single
    spaces. -/
theorem removal_is_final_iff (text : String) :
    (main (main text) = main text ↔
      ∀ n, 0 < n → ¬ enclosedPairs .angle n <:+: brackets .angle text.toList) ∧
    IsTidy (main text).toList := by
  constructor
  · exact main_main_iff text
  · exact isTidy_main text

/-! ## Extracting again -/

/-- Extraction tells clauses apart: pattern and parameters make up the clause. -/
theorem eq_of_pattern_eq_of_params_eq {clause clause' : String}
    (hpattern : pattern clause = pattern clause') (hparams : params clause = params clause') :
    clause = clause' := by
  rw [← fill_pattern_params clause, hpattern, hparams, fill_pattern_params]

theorem fill_extract (text : String) : fill (extract text).1 (extract text).2 = main text := by
  simp only [extract, fill_pattern_params]

/-- **Stable extraction.** Filling what was extracted from a text and extracting again
    gives the same, exactly when no angle brackets of the text enclose one or more pairs
    of angle brackets and nothing else. -/
theorem extract_fill_extract_iff (text : String) :
    extract (fill (extract text).1 (extract text).2) = extract text ↔
      ∀ n, 0 < n → ¬ enclosedPairs .angle n <:+: brackets .angle text.toList := by
  rw [fill_extract, ← main_main_iff]
  constructor
  · intro h
    obtain ⟨hpattern, hparams⟩ := Prod.mk.inj h
    exact eq_of_pattern_eq_of_params_eq hpattern hparams
  · intro h
    unfold extract
    rw [h]

/-- What is left around a removed condition reads as a condition itself. -/
theorem extract_fill_extract_nested :
    extract "Free Technology <when <not> at war>" = ("Free Technology <when at war>", []) ∧
    extract (fill "Free Technology <when at war>" []) = ("Free Technology", []) ∧
    ¬ ∀ text : String,
      extract (fill (extract text).1 (extract text).2) = extract text := by
  have hfirst : extract "Free Technology <when <not> at war>" =
      ("Free Technology <when at war>", []) := by decide
  have hagain : extract (fill "Free Technology <when at war>" []) =
      ("Free Technology", []) := by decide
  refine ⟨hfirst, hagain, fun h => ?_⟩
  have := h "Free Technology <when <not> at war>"
  rw [hfirst, hagain] at this
  exact absurd this (by decide)

end EffectText.Clause
