import EffectText.Clause
import EffectText.Proofs.Text.Pairs

/-! # Scanning, by places

    A text is scanned for square brackets to find its parameters, and for angle brackets to
    find its conditions. Both scans are told here by places: which places of the text hold a
    pair of brackets, what stands between them, and which places are left out.

    * `params_eq_between`, `conditions_eq_between`: every pair gives one text, in order.
    * `pattern_eq_keptAt`: the pattern is the clause without what is inside its pairs.
    * `Clause.scanning_takes_every_pair`: both scans of any text.
-/

namespace EffectText.Clause

open Text

theorem params_eq_between (clause : String) :
    params clause =
      (pairs .square clause.toList).map fun pair =>
        String.ofList (between clause.toList pair) := by
  unfold params paramChars
  rw [groups_eq_between, List.map_map]
  rfl

theorem pattern_eq_keptAt (clause : String) :
    (pattern clause).toList =
      keptAt clause.toList fun place =>
        (pairs .square clause.toList).all fun pair => !inside pair place := by
  unfold pattern patternChars
  rw [String.toList_ofList, emptied_eq_keptAt]

theorem conditions_eq_between (text : String) :
    conditions text =
      (pairs .angle text.toList).map fun pair =>
        String.ofList (trim (between text.toList pair)) := by
  unfold conditions conditionChars
  rw [groups_eq_between, List.map_map, List.map_map]
  rfl

/-- **Scanning.** For either kind of brackets, one pass over a text from the left finds its
    pairs: an opening bracket and a later closing one with no bracket of the kind between
    them. It finds all of them, each once and in order, and they do not overlap.

    * The parameters of a text are what stands strictly between its pairs of square brackets,
      and its pattern is the text without the characters strictly inside such a pair.
    * The conditions of a text are what stands strictly between its pairs of angle brackets,
      trimmed. Its main clause is the text without these pairs and all inside them, tidied.

    All other characters stay in their order, brackets without a partner among them. -/
theorem scanning_takes_every_pair (text : String) :
    (∀ d : Delimiters,
      segments d text.toList = search d text.toList ∧
      (∀ pair, pair ∈ pairs d text.toList ↔ IsPair d text.toList pair) ∧
      (pairs d text.toList).Pairwise fun pair next => pair.2 < next.1) ∧
    (params text = (pairs .square text.toList).map fun pair =>
      String.ofList (between text.toList pair)) ∧
    ((pattern text).toList = keptAt text.toList fun place =>
      (pairs .square text.toList).all fun pair => !inside pair place) ∧
    (conditions text = (pairs .angle text.toList).map fun pair =>
      String.ofList (trim (between text.toList pair))) ∧
    (literals (segments .angle text.toList) = keptAt text.toList fun place =>
      (pairs .angle text.toList).all fun pair => !within pair place) ∧
    main text = String.ofList (tidy (literals (segments .angle text.toList))) := by
  refine ⟨?scan, params_eq_between text, pattern_eq_keptAt text, conditions_eq_between text,
    literals_eq_keptAt text.toList, rfl⟩
  case scan =>
    intro d
    exact ⟨segments_eq_search text.toList, fun pair => mem_pairs_iff, pairwise_pairs text.toList⟩

end EffectText.Clause
