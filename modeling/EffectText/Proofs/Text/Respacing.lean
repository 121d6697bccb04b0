import EffectText.Proofs.Text.Cut
import EffectText.Proofs.Text.Trimming

/-! # Texts that differ in their gaps only

    A **gap** is a run of blanks. Two texts are **respaced** if one becomes the other by
    exchanging gaps for gaps: which blanks stand there, and how many, may differ.

    * Respaced texts have the same words (`Respaced.words_eq`). Conversely every text, with
      a blank at either end, is respaced to its words with a space around each
      (`respaced_words`).
    * Cutting respaced texts gives respaced cuts (`Respaced.segments`): brackets are no
      blanks, so no gap decides what an opening bracket takes.

    So the words outside the groups of a text, and the words of each group, depend on the
    words of the text alone (`words_literals_segments_eq`,
    `map_words_groups_segments_eq`).
-/

namespace EffectText.Text

/-! ## Gaps -/

/-- **Gap**: at least one character, and only blanks. -/
structure IsGap (gap : List Char) : Prop where
  ne_nil : gap ≠ []
  blank : ∀ c ∈ gap, isBlank c = true

theorem isGap_singleton {c : Char} (hc : isBlank c = true) : IsGap [c] := by
  constructor
  · exact List.cons_ne_nil c []
  · intro b hb
    rw [List.mem_singleton.mp hb]
    exact hc

theorem isGap_space : IsGap [' '] := isGap_singleton (by decide)

theorem IsGap.cons {c : Char} {gap : List Char} (hc : isBlank c = true) (h : IsGap gap) :
    IsGap (c :: gap) := by
  constructor
  · exact List.cons_ne_nil c gap
  · intro b hb
    rcases List.mem_cons.mp hb with rfl | hgap
    · exact hc
    · exact h.blank b hgap

/-- Blanks in front of a text belong to no word. -/
theorem words_append_left {blanks : List Char} (h : ∀ c ∈ blanks, isBlank c = true)
    (s : List Char) : words (blanks ++ s) = words s := by
  induction blanks with
  | nil => rfl
  | cons c rest ih =>
    have hc : isBlank c = true := h c List.mem_cons_self
    have hrest := ih fun b hb => h b (List.mem_cons_of_mem _ hb)
    calc words (c :: (rest ++ s))
      _ = words [] ++ words (rest ++ s) := words_append_blank hc [] (rest ++ s)
      _ = words s := by rw [hrest]; rfl

/-- Blanks behind a text belong to no word. -/
theorem words_append_right {blanks : List Char} (h : ∀ c ∈ blanks, isBlank c = true)
    (s : List Char) : words (s ++ blanks) = words s := by
  cases blanks with
  | nil => rw [List.append_nil]
  | cons c rest =>
    have hc : isBlank c = true := h c List.mem_cons_self
    have hrest : words (rest ++ []) = words [] :=
      words_append_left (fun b hb => h b (List.mem_cons_of_mem _ hb)) []
    rw [List.append_nil] at hrest
    rw [words_append_blank hc, hrest]
    exact List.append_nil _

/-- Trimming touches no word. -/
theorem words_trim (s : List Char) : words (trim s) = words s := by
  obtain ⟨left, right, hleft, hright, heq⟩ := blanks_append_trim_append_blanks s
  calc words (trim s)
    _ = words (trim s ++ right) := (words_append_right hright _).symm
    _ = words (left ++ (trim s ++ right)) := (words_append_left hleft _).symm
    _ = words s := by rw [← heq]

/-! ## Respaced texts -/

/-- **Respaced**: the same characters apart from blanks, with gaps in the same places. -/
inductive Respaced : List Char → List Char → Prop where
  | nil : Respaced [] []
  | solid {c : Char} {s t : List Char} (solid : isBlank c = false) (tail : Respaced s t) :
      Respaced (c :: s) (c :: t)
  | gap {gap gap' s t : List Char} (left : IsGap gap) (right : IsGap gap')
      (tail : Respaced s t) : Respaced (gap ++ s) (gap' ++ t)

theorem pieces_gap_append {gap : List Char} (h : IsGap gap) (s : List Char) :
    ∃ others, pieces (gap ++ s) = [] :: others ∧
      others.filter (fun piece => !piece.isEmpty) = words s := by
  obtain ⟨c, rest, rfl⟩ := List.exists_cons_of_ne_nil h.ne_nil
  have hc : isBlank c = true := h.blank c List.mem_cons_self
  refine ⟨pieces (rest ++ s), pieces_cons_of_blank hc (rest ++ s), ?_⟩
  exact words_append_left (fun b hb => h.blank b (List.mem_cons_of_mem _ hb)) s

/-- Respaced texts start with the same piece and go on with the same words. -/
theorem Respaced.pieces_eq {s t : List Char} (h : Respaced s t) :
    ∃ first others others', pieces s = first :: others ∧ pieces t = first :: others' ∧
      others.filter (fun piece => !piece.isEmpty) =
        others'.filter (fun piece => !piece.isEmpty) := by
  induction h with
  | nil => exact ⟨[], [], [], rfl, rfl, rfl⟩
  | @solid c s t hc _ ih =>
    obtain ⟨first, others, others', hs, ht, hothers⟩ := ih
    refine ⟨c :: first, others, others', ?_, ?_, hothers⟩
    · rw [pieces_cons_of_not_blank hc, hs, List.modifyHead_cons]
    · rw [pieces_cons_of_not_blank hc, ht, List.modifyHead_cons]
  | @gap gap gap' s t left right _ ih =>
    obtain ⟨first, others, others', hs, ht, hothers⟩ := ih
    obtain ⟨behind, hleft, hbehind⟩ := pieces_gap_append left s
    obtain ⟨behind', hright, hbehind'⟩ := pieces_gap_append right t
    refine ⟨[], behind, behind', hleft, hright, ?_⟩
    rw [hbehind, hbehind', words, words, hs, ht, List.filter_cons, List.filter_cons, hothers]

/-- Respaced texts have the same words. -/
theorem Respaced.words_eq {s t : List Char} (h : Respaced s t) : words s = words t := by
  obtain ⟨first, others, others', hs, ht, hothers⟩ := h.pieces_eq
  rw [words, words, hs, ht, List.filter_cons, List.filter_cons, hothers]

/-- A gap can be widened on one side alone. -/
theorem Respaced.widen {s t : List Char} {b c : Char} (hb : isBlank b = true)
    (hc : isBlank c = true) (h : Respaced s (b :: t)) : Respaced (c :: s) (b :: t) := by
  generalize ht : b :: t = t' at h
  cases h with
  | nil => exact absurd ht (List.cons_ne_nil b t)
  | solid solid tail =>
    obtain ⟨rfl, -⟩ := List.cons.inj ht
    rw [hb] at solid
    exact absurd solid (by decide)
  | gap left right tail => exact .gap (left.cons hc) right tail

/-- Words with a space behind each. -/
def spaced (list : List (List Char)) : List Char := list.flatMap fun word => word ++ [' ']

theorem spaced_cons (word : List Char) (rest : List (List Char)) :
    spaced (word :: rest) = word ++ ' ' :: spaced rest := by
  simp [spaced]

/-- A text with a blank behind it is respaced to its first piece and the words after it. -/
theorem respaced_pieces {s first : List Char} {others : List (List Char)}
    (h : pieces s = first :: others) :
    Respaced (s ++ [' '])
      (first ++ ' ' :: spaced (others.filter fun piece => !piece.isEmpty)) := by
  induction s generalizing first others with
  | nil =>
    obtain ⟨rfl, rfl⟩ := List.cons.inj h
    have hend : Respaced ([' '] ++ []) ([' '] ++ []) := .gap isGap_space isGap_space .nil
    exact hend
  | cons c rest ih =>
    obtain ⟨next, more, hrest⟩ := List.exists_cons_of_ne_nil (pieces_ne_nil rest)
    have hih := ih hrest
    by_cases hc : isBlank c = true
    · rw [pieces_cons_of_blank hc, hrest] at h
      obtain ⟨rfl, rfl⟩ := List.cons.inj h
      cases next with
      | nil =>
        -- one more blank in the gap that the rest starts with
        exact hih.widen (by decide) hc
      | cons a next =>
        have hkept : ((a :: next) :: more).filter (fun piece => !piece.isEmpty) =
            (a :: next) :: more.filter fun piece => !piece.isEmpty := rfl
        rw [hkept, spaced_cons]
        have hgap : Respaced ([c] ++ (rest ++ [' '])) ([' '] ++ _) :=
          .gap (isGap_singleton hc) isGap_space hih
        exact hgap
    · rw [Bool.not_eq_true] at hc
      rw [pieces_cons_of_not_blank hc, hrest, List.modifyHead_cons] at h
      obtain ⟨rfl, rfl⟩ := List.cons.inj h
      exact .solid hc hih

/-- **Canonical spacing**: a text with a blank at either end is respaced to its words with
    a space around each. -/
theorem respaced_words (s : List Char) :
    Respaced (' ' :: (s ++ [' '])) (' ' :: spaced (words s)) :=
  respaced_pieces (pieces_cons_of_blank (c := ' ') (by decide) s)

/-! ## Respaced cuts -/

/-- **Respaced cuts**: the same characters outside the groups apart from blanks, with gaps
    and groups in the same places, and respaced texts in the groups. -/
inductive CutRespaced : List Segment → List Segment → Prop where
  | nil : CutRespaced [] []
  | solid {c : Char} {segs segs' : List Segment} (solid : isBlank c = false)
      (tail : CutRespaced segs segs') : CutRespaced (.literal c :: segs) (.literal c :: segs')
  | gap {gap gap' : List Char} {segs segs' : List Segment} (left : IsGap gap)
      (right : IsGap gap') (tail : CutRespaced segs segs') :
      CutRespaced (gap.map .literal ++ segs) (gap'.map .literal ++ segs')
  | group {inner inner' : List Char} {segs segs' : List Segment}
      (inside : Respaced inner inner') (tail : CutRespaced segs segs') :
      CutRespaced (.group inner :: segs) (.group inner' :: segs')

theorem CutRespaced.literals {segs segs' : List Segment} (h : CutRespaced segs segs') :
    Respaced (literals segs) (literals segs') := by
  induction h with
  | nil => exact .nil
  | solid solid _ ih => exact .solid solid ih
  | gap left right _ ih =>
    rw [literals_append, literals_append, literals_map_literal, literals_map_literal]
    exact .gap left right ih
  | group _ _ ih => exact ih

theorem CutRespaced.map_words_groups {segs segs' : List Segment} (h : CutRespaced segs segs') :
    (groups segs).map words = (groups segs').map words := by
  induction h with
  | nil => rfl
  | solid _ _ ih => exact ih
  | gap _ _ _ ih =>
    rw [groups_append, groups_append, groups_map_literal, groups_map_literal]
    exact ih
  | group inside _ ih =>
    simp only [groups, List.map_cons]
    rw [inside.words_eq, ih]

section solidBrackets

variable {d : Delimiters} (hopening : isBlank d.opening = false)
  (hclosing : isBlank d.closing = false)
include hopening hclosing

theorem IsGap.unbracketed {gap : List Char} (h : IsGap gap) : Unbracketed d gap := by
  intro c hc
  have hblank : isBlank c = true := h.blank c hc
  constructor
  · rintro rfl
    exact absurd (hopening.symm.trans hblank) (by decide)
  · rintro rfl
    exact absurd (hclosing.symm.trans hblank) (by decide)

/-- From respaced cuts an opening bracket takes respaced texts, or nothing from either. -/
theorem CutRespaced.takeInner {segs segs' : List Segment} (h : CutRespaced segs segs') :
    Option.Rel (fun taken taken' => Respaced taken.1 taken'.1 ∧ CutRespaced taken.2 taken'.2)
      (takeInner d segs) (takeInner d segs') := by
  induction h with
  | nil => exact .none
  | @solid c segs segs' solid tail ih =>
    by_cases hc : c = d.closing
    · simp only [Text.takeInner, hc, if_true]
      exact .some ⟨.nil, tail⟩
    · by_cases ho : c = d.opening
      · simp only [Text.takeInner, ho, d.opening_ne_closing, if_true, if_false]
        exact .none
      · simp only [Text.takeInner, hc, ho, if_false]
        generalize Text.takeInner d segs = taken, Text.takeInner d segs' = taken' at ih ⊢
        cases ih with
        | none => exact .none
        | some hrel => exact .some ⟨.solid solid hrel.1, hrel.2⟩
  | @gap gap gap' segs segs' left right _ ih =>
    rw [takeInner_map_literal_append (left.unbracketed hopening hclosing),
      takeInner_map_literal_append (right.unbracketed hopening hclosing)]
    generalize Text.takeInner d segs = taken, Text.takeInner d segs' = taken' at ih ⊢
    cases ih with
    | none => exact .none
    | some hrel => exact .some ⟨.gap left right hrel.1, hrel.2⟩
  | group _ _ _ => exact .none

theorem CutRespaced.openGroup {segs segs' : List Segment} (h : CutRespaced segs segs') :
    CutRespaced (openGroup d segs) (openGroup d segs') := by
  have hrel := h.takeInner hopening hclosing
  unfold Text.openGroup
  generalize Text.takeInner d segs = taken, Text.takeInner d segs' = taken' at hrel
  cases hrel with
  | none => exact .solid hopening h
  | some hrel => exact .group hrel.1 hrel.2

/-- **Cutting** respaced texts gives respaced cuts. -/
theorem Respaced.segments {s t : List Char} (h : Respaced s t) :
    CutRespaced (segments d s) (segments d t) := by
  induction h with
  | nil => exact .nil
  | @solid c s t solid _ ih =>
    by_cases ho : c = d.opening
    · subst ho
      rw [segments_opening, segments_opening]
      exact ih.openGroup hopening hclosing
    · rw [segments_cons_of_ne ho, segments_cons_of_ne ho]
      exact .solid solid ih
  | gap left right _ ih =>
    rw [segments_append_of_unbracketed (left.unbracketed hopening hclosing),
      segments_append_of_unbracketed (right.unbracketed hopening hclosing)]
    exact .gap left right ih

/-! ## What the words of a text decide -/

/-- A space at either end of a text is a character outside the groups. -/
theorem segments_padded (s : List Char) :
    Text.segments d (' ' :: (s ++ [' '])) =
      .literal ' ' :: (Text.segments d s ++ [.literal ' ']) := by
  have hfree : Unbracketed d [' '] := isGap_space.unbracketed hopening hclosing
  rw [segments_cons_of_ne (hfree ' ' List.mem_cons_self).1, segments_append_unbracketed s hfree]
  rfl

/-- The words outside the groups of a text are those of its words. -/
theorem words_literals_segments (s : List Char) :
    words (Text.literals (Text.segments d s)) =
      words (Text.literals (Text.segments d (' ' :: spaced (words s)))) := by
  have hcut := (respaced_words s).segments hopening hclosing (d := d)
  rw [segments_padded hopening hclosing] at hcut
  have hwords := hcut.literals.words_eq
  have hspace : ∀ c ∈ [' '], isBlank c = true := isGap_space.blank
  rw [← hwords]
  simp only [Text.literals, literals_append]
  have hleft := words_append_left hspace (Text.literals (Text.segments d s) ++ [' '])
  have hright := words_append_right hspace (Text.literals (Text.segments d s))
  exact (hleft.trans hright).symm

/-- The words of each group of a text are those of the groups of its words. -/
theorem map_words_groups_segments (s : List Char) :
    (groups (Text.segments d s)).map words =
      (groups (Text.segments d (' ' :: spaced (words s)))).map words := by
  have hcut := (respaced_words s).segments hopening hclosing (d := d)
  rw [segments_padded hopening hclosing] at hcut
  rw [← hcut.map_words_groups]
  simp [groups]

/-- Texts with the same words have the same words outside their groups. -/
theorem words_literals_segments_eq {s t : List Char} (h : words s = words t) :
    words (Text.literals (Text.segments d s)) = words (Text.literals (Text.segments d t)) := by
  rw [words_literals_segments hopening hclosing s, words_literals_segments hopening hclosing t, h]

/-- Texts with the same words have groups with the same words. -/
theorem map_words_groups_segments_eq {s t : List Char} (h : words s = words t) :
    (groups (Text.segments d s)).map words = (groups (Text.segments d t)).map words := by
  rw [map_words_groups_segments hopening hclosing s,
    map_words_groups_segments hopening hclosing t, h]

end solidBrackets

end EffectText.Text
