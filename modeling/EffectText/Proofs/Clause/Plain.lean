import EffectText.Proofs.Clause.Filling
import EffectText.Proofs.Text.Spacing

/-! # Clauses that stand for themselves

    A **plain clause** is single-spaced, without blanks at its ends and without angle
    brackets. It is its own main clause (`IsPlainClause.main_eq`).

    Plain clauses stay plain when their parameters are exchanged for **plain slots**
    (`IsPlainClause.replace`).
-/

namespace EffectText.Clause

open Text

/-! ## Plain clauses -/

/-- **Plain clause**: no angle brackets, single spacing, no blank at either end. -/
structure IsPlainClause (clause : List Char) : Prop where
  angle : Unbracketed .angle clause
  spaced : SingleSpaced clause
  first : ∀ c ∈ clause.head?, isBlank c = false
  last : ∀ c ∈ clause.getLast?, isBlank c = false

theorem isPlainClause_iff {clause : List Char} :
    IsPlainClause clause ↔ Unbracketed .angle clause ∧ SingleSpaced clause ∧
      (clause.head?.all fun c => !isBlank c) = true ∧
      (clause.getLast?.all fun c => !isBlank c) = true := by
  simp only [Option.all_eq_true, Bool.not_eq_true']
  constructor
  · rintro ⟨angle, spaced, first, last⟩
    exact ⟨angle, spaced, first, last⟩
  · rintro ⟨angle, spaced, first, last⟩
    exact ⟨angle, spaced, first, last⟩

instance (clause : List Char) : Decidable (IsPlainClause clause) :=
  decidable_of_iff _ isPlainClause_iff.symm

/-- A plain clause is its own main clause. -/
theorem IsPlainClause.mainChars_eq {clause : List Char} (h : IsPlainClause clause) :
    mainChars clause = clause := by
  unfold mainChars
  rw [segments_of_unbracketed h.angle, literals_map_literal]
  exact h.spaced.tidy_eq_self h.first h.last

theorem IsPlainClause.main_eq {clause : String} (h : IsPlainClause clause.toList) :
    main clause = clause := by
  unfold main
  rw [h.mainChars_eq, String.ofList_toList]

/-! ## Plain slots -/

/-- **Plain slot**: a text that can stand in a slot without being read as anything else.
    No bracket of either kind stands in it, and its blanks are isolated spaces. -/
structure IsPlainSlot (slot : String) : Prop where
  square : Unbracketed .square slot.toList
  angle : Unbracketed .angle slot.toList
  spaced : SingleSpaced slot.toList

instance (slot : String) : Decidable (IsPlainSlot slot) :=
  decidable_of_iff
    (Unbracketed .square slot.toList ∧ Unbracketed .angle slot.toList ∧
      SingleSpaced slot.toList)
    ⟨fun ⟨square, angle, spaced⟩ => ⟨square, angle, spaced⟩,
      fun ⟨square, angle, spaced⟩ => ⟨square, angle, spaced⟩⟩

/-! ## Exchanging parameters of a plain clause -/

/-- Single spacing survives: a bracket is no blank, so it keeps a parameter apart from
    what stands around it. -/
theorem singleSpaced_refill {d : Delimiters} {segs : List Segment} {params : List (List Char)}
    (hopening : isBlank d.opening = false) (hclosing : isBlank d.closing = false)
    (h : SingleSpaced (source d segs)) (hparams : ∀ param ∈ params, SingleSpaced param) :
    SingleSpaced (source d (refill segs params)) := by
  induction segs generalizing params with
  | nil => exact h
  | cons seg rest ih =>
    cases seg with
    | literal c =>
      simp only [refill, source] at h ⊢
      rw [singleSpaced_cons] at h ⊢
      obtain ⟨hc, hhead, hrest⟩ := h
      rw [head?_source_refill]
      exact ⟨hc, hhead, ih hrest hparams⟩
    | group inner =>
      simp only [refill, source] at h ⊢
      rw [← List.nil_append (d.opening :: _), singleSpaced_append_cons hopening,
        singleSpaced_append_cons hclosing] at h ⊢
      obtain ⟨hnil, -, hrest⟩ := h
      have hparam : SingleSpaced (params.headD []) := by
        cases params with
        | nil => exact hnil
        | cons param others => exact hparams param List.mem_cons_self
      have htail : ∀ param ∈ params.tail, SingleSpaced param :=
        fun param hmem => hparams param (List.mem_of_mem_tail hmem)
      exact ⟨hnil, hparam, ih hrest htail⟩

/-- A plain clause with plain slots in place of its parameters is a plain clause. -/
theorem IsPlainClause.replace {clause : String} (h : IsPlainClause clause.toList)
    {slots : List String} (hslots : ∀ slot ∈ slots, IsPlainSlot slot) :
    IsPlainClause (replace clause slots).toList := by
  have hsource : source .square (segments .square clause.toList) = clause.toList :=
    source_segments _ _
  unfold Clause.replace
  rw [String.toList_ofList]
  constructor
  case angle =>
    intro c hc
    rcases mem_source_refill hc with hclause | ⟨chars, hchars, hmem⟩
    · rw [hsource] at hclause
      exact h.angle c hclause
    · obtain ⟨slot, hslot, rfl⟩ := List.mem_map.mp hchars
      exact (hslots slot hslot).angle c hmem
  case spaced =>
    have hspaced : SingleSpaced (source .square (segments .square clause.toList)) := by
      rw [hsource]
      exact h.spaced
    refine singleSpaced_refill (by decide) (by decide) hspaced ?_
    intro chars hchars
    obtain ⟨slot, hslot, rfl⟩ := List.mem_map.mp hchars
    exact (hslots slot hslot).spaced
  case first =>
    rw [head?_source_refill, hsource]
    exact h.first
  case last =>
    rw [getLast?_source_refill, hsource]
    exact h.last

end EffectText.Clause
