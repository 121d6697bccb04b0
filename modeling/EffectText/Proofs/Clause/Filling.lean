import EffectText.Clause
import EffectText.Proofs.Text.Cut

/-! # Taking a clause apart and filling it again

    A clause is taken apart into its pattern and its parameters by scanning brackets,
    and a pattern is filled by looking for its markers `[]`. The two agree on what a
    marker is: in the pattern of a cut, `[]` stands exactly where a group was
    (`fillChars_emptied`), because an opening bracket outside the groups is never
    followed by a closing one.

    Main statements, over all texts:

    * `fill_pattern_params`: filling the pattern of a clause with its parameters gives
      the clause back.
    * `fill_pattern`: filling the pattern of a clause with other parameters exchanges
      the parameters of the clause.
    * `pattern_replace`, `params_replace`: exchanging parameters keeps the pattern.
-/

namespace EffectText.Clause

open Text

/-! ## Markers -/

/-- The number of markers `[]` in a text. Two of them never overlap. -/
def markerChars : List Char → Nat
  | '[' :: ']' :: rest => markerChars rest + 1
  | _ :: rest => markerChars rest
  | [] => 0

/-- **Markers** of a pattern: how often `[]` stands in it. -/
def markers (pattern : String) : Nat := markerChars pattern.toList

theorem fillChars_cons_of_ne {c : Char} (h : c ≠ '[') (rest : List Char)
    (params : List (List Char)) : fillChars (c :: rest) params = c :: fillChars rest params := by
  rw [fillChars]
  exact fun _ hc => absurd hc h

/-- An opening bracket that no closing one follows is no marker. -/
theorem fillChars_opening {rest : List Char} (h : rest.head? ≠ some ']')
    (params : List (List Char)) : fillChars ('[' :: rest) params = '[' :: fillChars rest params := by
  rw [fillChars]
  rintro rest' - rfl
  exact h rfl

theorem markerChars_cons_of_ne {c : Char} (h : c ≠ '[') (rest : List Char) :
    markerChars (c :: rest) = markerChars rest := by
  rw [markerChars]
  exact fun _ hc => absurd hc h

theorem markerChars_opening {rest : List Char} (h : rest.head? ≠ some ']') :
    markerChars ('[' :: rest) = markerChars rest := by
  rw [markerChars]
  rintro rest' - rfl
  exact h rfl

/-- In front of an opening bracket that takes nothing, the emptied text does not start
    with a closing bracket: a group starts with an opening one. -/
theorem head?_emptied_ne {segs : List Segment} (h : takeInner .square segs = none) :
    (emptied .square segs).head? ≠ some ']' := by
  cases segs with
  | nil => simp [emptied]
  | cons seg rest =>
    cases seg with
    | group inner => simp [emptied, Delimiters.square]
    | literal c =>
      intro hhead
      have hc : c = ']' := by simpa [emptied] using hhead
      exact (takeInner_literal_eq_none_iff.mp h).1 hc

/-- Filling the pattern of a cut refills its groups. -/
theorem fillChars_emptied {segs : List Segment} (h : IsCut .square segs)
    (params : List (List Char)) :
    fillChars (emptied .square segs) params = source .square (refill segs params) := by
  induction h generalizing params with
  | nil => rfl
  | @literal c rest closed _ ih =>
    by_cases hc : c = '['
    · subst hc
      have hhead := head?_emptied_ne (closed rfl)
      simp only [emptied, refill, source]
      rw [fillChars_opening hhead, ih]
    · simp only [emptied, refill, source]
      rw [fillChars_cons_of_ne hc, ih]
  | @group inner rest _ _ ih =>
    show '[' :: (params.headD [] ++ ']' :: fillChars (emptied .square rest) params.tail) = _
    rw [ih]
    rfl

/-- The pattern of a cut has a marker for each group, and no others. -/
theorem markerChars_emptied {segs : List Segment} (h : IsCut .square segs) :
    markerChars (emptied .square segs) = (groups segs).length := by
  induction h with
  | nil => rfl
  | @literal c rest closed _ ih =>
    by_cases hc : c = '['
    · subst hc
      have hhead := head?_emptied_ne (closed rfl)
      simp only [emptied, groups]
      rw [markerChars_opening hhead, ih]
    · simp only [emptied, groups]
      rw [markerChars_cons_of_ne hc, ih]
  | @group inner rest _ _ ih =>
    show markerChars (emptied .square rest) + 1 = (groups rest).length + 1
    rw [ih]

/-! ## Exchanging parameters -/

/-- **Replacing**: the clause with its parameters exchanged for others, in order. All
    that stands outside the parameters is kept. -/
def replace (clause : String) (params : List String) : String :=
  String.ofList (source .square (refill (segments .square clause.toList)
    (params.map String.toList)))

/-- Filling the pattern of a clause exchanges the parameters of the clause. -/
theorem fill_pattern (clause : String) (params : List String) :
    fill (pattern clause) params = replace clause params := by
  unfold fill pattern replace patternChars
  rw [String.toList_ofList, fillChars_emptied (isCut_segments clause.toList)]

theorem replace_params (clause : String) : replace clause (params clause) = clause := by
  have hchars : (params clause).map String.toList = groups (segments .square clause.toList) := by
    simp [params, paramChars, Function.comp_def]
  unfold replace
  rw [hchars, refill_groups, source_segments, String.ofList_toList]

/-- Filling the pattern of a clause with its parameters gives the clause back. -/
theorem fill_pattern_params (clause : String) :
    fill (pattern clause) (params clause) = clause := by
  rw [fill_pattern, replace_params]

/-- Exchanging the one parameter of a clause that ends with it. -/
theorem replace_last (front slot param : String) (hfront : Unbracketed .square front.toList)
    (hslot : Unbracketed .square slot.toList) :
    replace (front ++ "[" ++ slot ++ "]") [param] = front ++ "[" ++ param ++ "]" := by
  have htext : (front ++ "[" ++ slot ++ "]").toList =
      front.toList ++ '[' :: (slot.toList ++ ']' :: []) := by simp
  have hcut : segments .square (front ++ "[" ++ slot ++ "]").toList =
      front.toList.map .literal ++ [.group slot.toList] := by
    have hgroup := segments_append_group hslot front.toList []
    rw [segments_of_unbracketed hfront] at hgroup
    rw [htext]
    exact hgroup
  unfold replace
  rw [← String.toList_inj, String.toList_ofList, hcut, refill_map_literal_append,
    source_append, source_map_literal]
  simp [refill, source, Delimiters.square]

theorem markers_pattern (clause : String) :
    markers (pattern clause) = (params clause).length := by
  unfold markers pattern patternChars params paramChars
  rw [String.toList_ofList, markerChars_emptied (isCut_segments clause.toList), List.length_map]

theorem unbracketed_of_mem_params {clause param : String} (h : param ∈ params clause) :
    Unbracketed .square param.toList := by
  obtain ⟨inner, hmem, rfl⟩ := List.mem_map.mp h
  rw [String.toList_ofList]
  exact (isCut_segments clause.toList).unbracketed_of_mem_groups hmem

section replace

variable {new : List String} (hfree : ∀ param ∈ new, Unbracketed .square param.toList)
include hfree

/-- The segments of a clause with other parameters: the cut, refilled. -/
theorem segments_replace (clause : String) :
    segments .square (replace clause new).toList =
      refill (segments .square clause.toList) (new.map String.toList) := by
  unfold replace
  rw [String.toList_ofList]
  refine ((isCut_segments clause.toList).refill ?_).segments_source
  intro chars hchars
  obtain ⟨param, hparam, rfl⟩ := List.mem_map.mp hchars
  exact hfree param hparam

/-- Exchanging the parameters of a clause keeps its pattern. -/
theorem pattern_replace (clause : String) : pattern (replace clause new) = pattern clause := by
  unfold pattern patternChars
  rw [segments_replace hfree, emptied_refill]

/-- The parameters of a clause with other parameters: as many as it had before, with
    empty ones where the new ones run out. -/
theorem params_replace (clause : String) :
    params (replace clause new) =
      (new.take (params clause).length).rightpad (params clause).length "" := by
  have hlength : (params clause).length = (groups (segments .square clause.toList)).length := by
    simp [params, paramChars]
  have hgroups : params (replace clause new) =
      (groups (refill (segments .square clause.toList) (new.map String.toList))).map
        String.ofList := by
    rw [← segments_replace hfree]
    rfl
  rw [hgroups, groups_refill, hlength]
  simp [List.rightpad, ← List.map_take, Function.comp_def]

end replace

/-! ## Taking apart and filling are inverse -/

/-- **Inverse operations.** A clause is what its pattern filled with its parameters
    gives; its parameters hold no square brackets, and there is one for each marker.
    A text that is its own pattern, filled with texts without square brackets, is taken
    apart into that pattern and those texts, cut or filled up with empty ones to the
    number of markers. -/
theorem taking_apart_inverse_filling :
    (∀ clause : String,
      fill (pattern clause) (params clause) = clause ∧
      (∀ param ∈ params clause, Unbracketed .square param.toList) ∧
      (params clause).length = markers (pattern clause)) ∧
    ∀ (own : String) (new : List String), pattern own = own →
      (∀ param ∈ new, Unbracketed .square param.toList) →
      pattern (fill own new) = own ∧
      params (fill own new) = (new.take (markers own)).rightpad (markers own) "" := by
  constructor
  · intro clause
    refine ⟨fill_pattern_params clause, fun param h => unbracketed_of_mem_params h, ?_⟩
    rw [markers_pattern]
  · intro own new hown hfree
    have hfill : fill own new = replace own new := by
      rw [← fill_pattern, hown]
    have hmarkers : markers own = (params own).length := by
      rw [← markers_pattern, hown]
    rw [hfill, hmarkers]
    exact ⟨by rw [pattern_replace hfree, hown], params_replace hfree own⟩

/-- Markers between brackets without partners, and one parameter too few. -/
theorem taking_apart_inverse_filling_nested :
    pattern "[[] from []] tiles" = "[[] from []] tiles" ∧
    (∀ param ∈ ["+1 Gold"], Unbracketed .square param.toList) ∧
    pattern (fill "[[] from []] tiles" ["+1 Gold"]) = "[[] from []] tiles" ∧
    params (fill "[[] from []] tiles" ["+1 Gold"]) = ["+1 Gold", ""] := by
  have hown : pattern "[[] from []] tiles" = "[[] from []] tiles" := by decide
  have hfree : ∀ param ∈ ["+1 Gold"], Unbracketed .square param.toList := by decide
  obtain ⟨hpattern, hparams⟩ := taking_apart_inverse_filling.2 _ _ hown hfree
  have hmarkers : markers "[[] from []] tiles" = 2 := by decide
  rw [hmarkers] at hparams
  exact ⟨hown, hfree, hpattern, hparams⟩

end EffectText.Clause
