import EffectText.Clause
import EffectText.Proofs.Text.BracketShape
import EffectText.Proofs.Text.Trimming

/-! # Where the conditions of a text stand

    A condition is a text in angle brackets in which no angle bracket stands
    (`unbracketed_of_mem_conditions`). It counts as one whatever stands around it: unclosed
    brackets in front of it, closing brackets behind it, brackets that enclose it.

    * `conditions_insert`: a condition written between two texts comes after the
      conditions of the first and before those of the second.
    * `conditions_eq_nil_iff`: a text without conditions is one in which no condition is
      written.
-/

namespace EffectText.Clause

open Text

/-! ## Conditions between two texts -/

theorem toList_insert (before inner after : String) :
    (before ++ "<" ++ inner ++ ">" ++ after).toList =
      before.toList ++ '<' :: (inner.toList ++ '>' :: after.toList) := by
  simp

/-- A condition written between two texts joins their conditions. -/
theorem conditions_insert {inner : String} (h : Unbracketed .angle inner.toList)
    (before after : String) :
    conditions (before ++ "<" ++ inner ++ ">" ++ after) =
      conditions before ++ String.ofList (trim inner.toList) :: conditions after := by
  have hcut : segments .angle (before ++ "<" ++ inner ++ ">" ++ after).toList =
      segments .angle before.toList ++
        .group inner.toList :: segments .angle after.toList := by
    rw [toList_insert]
    exact segments_append_group h before.toList after.toList
  simp only [conditions, conditionChars, hcut]
  simp [groups]

/-- A text has no conditions exactly when none is written in it. -/
theorem conditions_eq_nil_iff (text : String) :
    conditions text = [] ↔
      ¬ ∃ before inner after, Unbracketed .angle inner.toList ∧
        text = before ++ "<" ++ inner ++ ">" ++ after := by
  constructor
  · rintro hnil ⟨before, inner, after, hfree, rfl⟩
    rw [conditions_insert hfree] at hnil
    simp at hnil
  · intro hnone
    have hgroups : groups (segments .angle text.toList) = [] := by
      rw [List.eq_nil_iff_forall_not_mem]
      intro inner hmem
      obtain ⟨hfree, before, after, heq⟩ := mem_groups_segments_iff.mp hmem
      apply hnone
      refine ⟨String.ofList before, String.ofList inner, String.ofList after, ?_, ?_⟩
      · simpa using hfree
      · rw [← String.toList_inj, toList_insert, heq]
        simp [Delimiters.angle]
    simp [conditions, conditionChars, hgroups]

/-! ## What stands in a condition -/

/-- A condition is what stands between two angle brackets, trimmed. -/
theorem exists_group_of_mem_conditions {text clause : String} (h : clause ∈ conditions text) :
    ∃ inner ∈ groups (segments .angle text.toList), clause.toList = trim inner := by
  unfold conditions conditionChars at h
  obtain ⟨chars, hchars, rfl⟩ := List.mem_map.mp h
  obtain ⟨inner, hinner, rfl⟩ := List.mem_map.mp hchars
  exact ⟨inner, hinner, String.toList_ofList⟩

/-- No angle bracket stands in a condition. -/
theorem unbracketed_of_mem_conditions {text clause : String} (h : clause ∈ conditions text) :
    Unbracketed .angle clause.toList := by
  obtain ⟨inner, hinner, heq⟩ := exists_group_of_mem_conditions h
  have hfree : Unbracketed .angle inner :=
    (isCut_segments text.toList).unbracketed_of_mem_groups hinner
  rw [heq]
  intro c hc
  exact hfree c (mem_of_mem_trim hc)

/-- No blank stands at either end of a condition. -/
theorem isTrimmed_of_mem_conditions {text clause : String} (h : clause ∈ conditions text) :
    IsTrimmed clause.toList := by
  obtain ⟨inner, -, heq⟩ := exists_group_of_mem_conditions h
  rw [heq]
  exact isTrimmed_trim inner

/-- A text without angle brackets has no conditions. -/
theorem conditions_of_unbracketed {text : String} (h : Unbracketed .angle text.toList) :
    conditions text = [] := by
  unfold conditions conditionChars
  rw [segments_of_unbracketed h, groups_map_literal]
  rfl

end EffectText.Clause
