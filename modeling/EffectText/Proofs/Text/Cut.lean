import EffectText.Text.Brackets

/-! # The cut of a text is unique

    `segments` reads a text from the right. This module says what it finds without
    reading anything:

    * **Cut**: a list of segments in which groups hold no brackets, and in which no
      opening bracket that stands outside the groups could open one.
    * **Uniqueness**: the segments of a text are the only cut that joins to the text
      (`segments_eq_iff`).
    * **Locality**: an opening bracket starts afresh, whatever stands in front of it
      (`segments_append_opening`).
    * **Refilling**: the groups of a cut can be exchanged for others without brackets,
      and the result is a cut again (`IsCut.refill`).
-/

namespace EffectText.Text

variable {d : Delimiters}

/-! ## Texts without brackets -/

/-- **Unbracketed**: a text in which neither bracket stands. -/
def Unbracketed (d : Delimiters) (s : List Char) : Prop :=
  ∀ c ∈ s, c ≠ d.opening ∧ c ≠ d.closing

-- by name: the instance for statements about all characters would try every one
instance (d : Delimiters) (s : List Char) : Decidable (Unbracketed d s) :=
  List.decidableBAll (fun c => c ≠ d.opening ∧ c ≠ d.closing) s

@[simp] theorem unbracketed_nil : Unbracketed d [] := by
  simp [Unbracketed]

@[simp] theorem unbracketed_cons {c : Char} {s : List Char} :
    Unbracketed d (c :: s) ↔ (c ≠ d.opening ∧ c ≠ d.closing) ∧ Unbracketed d s := by
  simp [Unbracketed]

theorem unbracketed_iff_filter {s : List Char} :
    Unbracketed d s ↔ s.filter d.isBracket = [] := by
  simp [Unbracketed, Delimiters.isBracket, List.filter_eq_nil_iff]

/-! ## Views of a joined list -/

@[simp] theorem source_append (segs segs' : List Segment) :
    source d (segs ++ segs') = source d segs ++ source d segs' := by
  induction segs with
  | nil => rfl
  | cons seg rest ih => cases seg <;> simp [source, ih]

@[simp] theorem literals_append (segs segs' : List Segment) :
    literals (segs ++ segs') = literals segs ++ literals segs' := by
  induction segs with
  | nil => rfl
  | cons seg rest ih => cases seg <;> simp [literals, ih]

@[simp] theorem groups_append (segs segs' : List Segment) :
    groups (segs ++ segs') = groups segs ++ groups segs' := by
  induction segs with
  | nil => rfl
  | cons seg rest ih => cases seg <;> simp [groups, ih]

@[simp] theorem literals_map_literal (s : List Char) : literals (s.map .literal) = s := by
  induction s with
  | nil => rfl
  | cons c rest ih => simp [literals, ih]

@[simp] theorem groups_map_literal (s : List Char) : groups (s.map .literal) = [] := by
  induction s with
  | nil => rfl
  | cons c rest ih => simp [groups, ih]

theorem source_map_literal (s : List Char) : source d (s.map .literal) = s := by
  induction s with
  | nil => rfl
  | cons c rest ih => exact congrArg (c :: ·) ih

/-- Without groups, the characters outside the groups are the whole text. -/
theorem literals_eq_source {segs : List Segment} (h : groups segs = []) :
    literals segs = source d segs := by
  induction segs with
  | nil => rfl
  | cons seg rest ih =>
    cases seg with
    | literal c => simp [literals, source, ih h]
    | group inner => simp [groups] at h

/-! ## What an opening bracket takes -/

/-- An opening bracket takes the characters in front of it that are no brackets, and what
    it would take behind them. -/
theorem takeInner_map_literal_append {inner : List Char} (h : Unbracketed d inner)
    (segs : List Segment) :
    takeInner d (inner.map .literal ++ segs) =
      (takeInner d segs).map fun (taken, after) => (inner ++ taken, after) := by
  induction inner with
  | nil => simp
  | cons c rest ih =>
    obtain ⟨⟨ho, hc⟩, hrest⟩ := unbracketed_cons.mp h
    simp [takeInner, ho, hc, ih hrest, Option.map_map, Function.comp_def]

/-- An opening bracket takes all characters up to the next closing one. -/
theorem takeInner_append {inner : List Char} (h : Unbracketed d inner) (after : List Segment) :
    takeInner d (inner.map .literal ++ .literal d.closing :: after) = some (inner, after) := by
  induction inner with
  | nil => simp [takeInner]
  | cons c inner ih =>
    obtain ⟨⟨ho, hc⟩, hrest⟩ := unbracketed_cons.mp h
    simp [takeInner, ho, hc, ih hrest]

/-- An opening bracket takes nothing else. -/
theorem eq_append_of_takeInner {segs after : List Segment} {inner : List Char}
    (h : takeInner d segs = some (inner, after)) :
    Unbracketed d inner ∧ segs = inner.map .literal ++ .literal d.closing :: after := by
  induction segs generalizing inner with
  | nil => simp [takeInner] at h
  | cons seg rest ih =>
    cases seg with
    | group g => simp [takeInner] at h
    | literal c =>
      unfold takeInner at h
      split at h
      · next hc =>
        simp only [Option.some.injEq, Prod.mk.injEq] at h
        obtain ⟨rfl, rfl⟩ := h
        simp [hc]
      · next hc =>
        split at h
        · simp at h
        · next ho =>
          simp only [Option.map_eq_some_iff, Prod.mk.injEq] at h
          obtain ⟨⟨inner', after'⟩, htake, rfl, rfl⟩ := h
          obtain ⟨hfree, hrest⟩ := ih htake
          exact ⟨unbracketed_cons.mpr ⟨⟨ho, hc⟩, hfree⟩, by simp [hrest]⟩

/-- When there is nothing to take from a character on: it is no closing bracket, and
    either it opens a group of its own or there is nothing to take behind it. -/
theorem takeInner_literal_eq_none_iff {c : Char} {rest : List Segment} :
    takeInner d (.literal c :: rest) = none ↔
      c ≠ d.closing ∧ (c = d.opening ∨ takeInner d rest = none) := by
  by_cases hc : c = d.closing
  · simp [takeInner, hc]
  · by_cases ho : c = d.opening
    · simp [takeInner, ho, d.opening_ne_closing]
    · simp [takeInner, hc, ho]

/-! ## Cuts -/

/-- **Cut**: segments that a text can be cut into. No bracket stands in a group, and
    no opening bracket outside the groups has anything to take. -/
inductive IsCut (d : Delimiters) : List Segment → Prop where
  | nil : IsCut d []
  | literal {c : Char} {rest : List Segment} (closed : c = d.opening → takeInner d rest = none)
      (tail : IsCut d rest) : IsCut d (.literal c :: rest)
  | group {inner : List Char} {rest : List Segment} (free : Unbracketed d inner)
      (tail : IsCut d rest) : IsCut d (.group inner :: rest)

theorem IsCut.of_append {segs segs' : List Segment} (h : IsCut d (segs ++ segs')) :
    IsCut d segs' := by
  induction segs with
  | nil => exact h
  | cons seg rest ih =>
    cases h with
    | literal _ tail => exact ih tail
    | group _ tail => exact ih tail

/-- The groups of a cut hold no brackets. -/
theorem IsCut.unbracketed_of_mem_groups {segs : List Segment} {inner : List Char}
    (h : IsCut d segs) (hmem : inner ∈ groups segs) : Unbracketed d inner := by
  induction h with
  | nil => simp [groups] at hmem
  | literal _ _ ih => exact ih hmem
  | group free _ ih =>
    rcases List.mem_cons.mp hmem with rfl | hrest
    · exact free
    · exact ih hrest

/-- What an opening bracket makes in front of a cut is a cut. -/
theorem isCut_openGroup {following : List Segment} (h : IsCut d following) :
    IsCut d (openGroup d following) := by
  unfold openGroup
  split
  · next inner after htake =>
    obtain ⟨hfree, rfl⟩ := eq_append_of_takeInner htake
    cases h.of_append with
    | literal _ tail => exact .group hfree tail
  · next hnone => exact .literal (fun _ => hnone) h

/-- The segments of a text are a cut. -/
theorem isCut_segments (s : List Char) : IsCut d (segments d s) := by
  induction s with
  | nil => exact .nil
  | cons c rest ih =>
    unfold segments
    split
    · exact isCut_openGroup ih
    · next hc => exact .literal (fun h => absurd h hc) ih

/-! ## Scanning -/

theorem segments_cons_of_ne {c : Char} (h : c ≠ d.opening) (s : List Char) :
    segments d (c :: s) = .literal c :: segments d s := by
  simp [segments, h]

theorem segments_opening (s : List Char) :
    segments d (d.opening :: s) = openGroup d (segments d s) := by
  simp [segments]

/-- Characters that are no brackets are passed over. -/
theorem segments_append_of_unbracketed {inner : List Char} (h : Unbracketed d inner)
    (s : List Char) : segments d (inner ++ s) = inner.map .literal ++ segments d s := by
  induction inner with
  | nil => rfl
  | cons c inner ih =>
    obtain ⟨⟨ho, _⟩, hrest⟩ := unbracketed_cons.mp h
    simp [segments_cons_of_ne ho, ih hrest]

/-- A bracketed text without brackets inside is one group. -/
theorem segments_group {inner : List Char} (h : Unbracketed d inner) (s : List Char) :
    segments d (d.opening :: (inner ++ d.closing :: s)) = .group inner :: segments d s := by
  have hclosing : segments d (d.closing :: s) = .literal d.closing :: segments d s :=
    segments_cons_of_ne d.opening_ne_closing.symm s
  rw [segments_opening, segments_append_of_unbracketed h, hclosing]
  simp [openGroup, takeInner_append h]

/-- **Reading back**: scanning the text of a cut finds the cut. -/
theorem IsCut.segments_source {segs : List Segment} (h : IsCut d segs) :
    segments d (source d segs) = segs := by
  induction h with
  | nil => rfl
  | @literal c rest closed _ ih =>
    by_cases hc : c = d.opening
    · subst hc
      simp [source, segments_opening, ih, openGroup, closed rfl]
    · simp [source, segments_cons_of_ne hc, ih]
  | group free _ ih => simp [source, segments_group free, ih]

/-- **Uniqueness**: the segments of a text are the one cut that joins to it. -/
theorem segments_eq_iff {s : List Char} {segs : List Segment} :
    segments d s = segs ↔ IsCut d segs ∧ source d segs = s := by
  constructor
  · rintro rfl
    exact ⟨isCut_segments s, source_segments d s⟩
  · rintro ⟨hcut, rfl⟩
    exact hcut.segments_source

/-- A text without brackets is cut into its characters. -/
theorem segments_of_unbracketed {s : List Char} (h : Unbracketed d s) :
    segments d s = s.map .literal := by
  simpa [segments] using segments_append_of_unbracketed h []

/-! ## Locality -/

/-- If neither list has anything to take, there is nothing to take across their seam. -/
theorem takeInner_append_eq_none {segs segs' : List Segment} (h : takeInner d segs = none)
    (h' : takeInner d segs' = none) : takeInner d (segs ++ segs') = none := by
  induction segs with
  | nil => exact h'
  | cons seg rest ih =>
    cases seg with
    | group g => rfl
    | literal c =>
      obtain ⟨hc, hrest⟩ := takeInner_literal_eq_none_iff.mp h
      exact takeInner_literal_eq_none_iff.mpr ⟨hc, hrest.imp_right ih⟩

theorem IsCut.append {segs segs' : List Segment} (h : IsCut d segs) (h' : IsCut d segs')
    (hnone : takeInner d segs' = none) : IsCut d (segs ++ segs') := by
  induction h with
  | nil => exact h'
  | literal closed _ ih =>
    exact .literal (fun hc => takeInner_append_eq_none (closed hc) hnone) ih
  | group free _ ih => exact .group free ih

/-- Characters that are no brackets belong to no group, whatever stands in front of them. -/
theorem segments_append_unbracketed (s : List Char) {inner : List Char}
    (h : Unbracketed d inner) : segments d (s ++ inner) = segments d s ++ inner.map .literal := by
  have htake : takeInner d (inner.map .literal) = none := by
    have hend := takeInner_map_literal_append h []
    rw [List.append_nil] at hend
    rw [hend]
    rfl
  have hcut : IsCut d (inner.map .literal) := by
    rw [← segments_of_unbracketed h]
    exact isCut_segments inner
  rw [segments_eq_iff]
  constructor
  · exact (isCut_segments s).append hcut htake
  · rw [source_append, source_segments, source_map_literal]

/-- Nothing can be taken past an opening bracket. -/
theorem takeInner_segments_opening (s : List Char) :
    takeInner d (segments d (d.opening :: s)) = none := by
  rw [segments_opening]
  unfold openGroup
  split
  · rfl
  · simp [takeInner, d.opening_ne_closing]

/-- **Locality**: an opening bracket starts afresh, whatever stands in front of it. -/
theorem segments_append_opening (before after : List Char) :
    segments d (before ++ d.opening :: after) =
      segments d before ++ segments d (d.opening :: after) := by
  rw [segments_eq_iff]
  constructor
  · exact (isCut_segments before).append (isCut_segments _) (takeInner_segments_opening after)
  · simp [source_segments]

/-- A bracketed text without brackets inside is one group, whatever stands around it. -/
theorem segments_append_group {inner : List Char} (h : Unbracketed d inner)
    (before after : List Char) :
    segments d (before ++ d.opening :: (inner ++ d.closing :: after)) =
      segments d before ++ .group inner :: segments d after := by
  rw [segments_append_opening, segments_group h]

/-! ## Refilling -/

/-- **Refilled**: the groups exchanged for `params`, from left to right. A group
    without a parameter is emptied, and parameters without a group are dropped. -/
def refill : List Segment → List (List Char) → List Segment
  | [], _ => []
  | .literal c :: rest, params => .literal c :: refill rest params
  | .group _ :: rest, params => .group (params.headD []) :: refill rest params.tail

theorem refill_map_literal_append (s : List Char) (segs : List Segment)
    (params : List (List Char)) :
    refill (s.map .literal ++ segs) params = s.map .literal ++ refill segs params := by
  induction s with
  | nil => rfl
  | cons c rest ih => exact congrArg (.literal c :: ·) ih

/-- Refilling with the groups that stand there changes nothing. -/
theorem refill_groups (segs : List Segment) : refill segs (groups segs) = segs := by
  induction segs with
  | nil => rfl
  | cons seg rest ih => cases seg <;> simp [groups, refill, ih]

/-- Refilling keeps the emptied text. -/
theorem emptied_refill (segs : List Segment) (params : List (List Char)) :
    emptied d (refill segs params) = emptied d segs := by
  induction segs generalizing params with
  | nil => rfl
  | cons seg rest ih => cases seg <;> simp [refill, emptied, ih]

/-- A list cut or filled up to one more than `n` elements: its head, then its tail
    cut or filled up to `n`. -/
theorem rightpad_take_succ {α : Type} (n : Nat) (fallback : α) (params : List α) :
    (params.take (n + 1)).rightpad (n + 1) fallback =
      params.headD fallback :: (params.tail.take n).rightpad n fallback := by
  cases params <;> simp [List.rightpad, List.replicate_succ]

/-- The groups of a refilled list: as many parameters as there were groups, with
    empty ones where they run out. -/
theorem groups_refill (segs : List Segment) (params : List (List Char)) :
    groups (refill segs params) =
      (params.take (groups segs).length).rightpad (groups segs).length [] := by
  induction segs generalizing params with
  | nil => simp [refill, groups, List.rightpad]
  | cons seg rest ih =>
    cases seg with
    | literal c => exact ih params
    | group inner =>
      simp only [refill, groups, List.length_cons]
      rw [rightpad_take_succ, ih]

/-- A refilled text starts as before: a group starts with its bracket. -/
theorem head?_source_refill (segs : List Segment) (params : List (List Char)) :
    (source d (refill segs params)).head? = (source d segs).head? := by
  cases segs with
  | nil => rfl
  | cons seg rest => cases seg <;> rfl

/-- A refilled text ends as before: a group ends with its bracket. -/
theorem getLast?_source_refill (segs : List Segment) (params : List (List Char)) :
    (source d (refill segs params)).getLast? = (source d segs).getLast? := by
  induction segs generalizing params with
  | nil => rfl
  | cons seg rest ih =>
    cases seg with
    | literal c => simp only [refill, source, List.getLast?_cons, ih]
    | group inner =>
      simp [refill, source, List.getLast?_cons, List.getLast?_append, ih]

/-- Every character of a refilled text was there before or stands in a parameter. -/
theorem mem_source_refill {segs : List Segment} {params : List (List Char)} {c : Char}
    (h : c ∈ source d (refill segs params)) :
    c ∈ source d segs ∨ ∃ param ∈ params, c ∈ param := by
  induction segs generalizing params with
  | nil => simp [refill, source] at h
  | cons seg rest ih =>
    cases seg with
    | literal b =>
      rcases List.mem_cons.mp h with rfl | hrest
      · exact .inl List.mem_cons_self
      · rcases ih hrest with hsource | hparam
        · exact .inl (List.mem_cons_of_mem _ hsource)
        · exact .inr hparam
    | group inner =>
      simp only [refill, source, List.mem_cons, List.mem_append] at h ⊢
      rcases h with hopen | hinner | hclose | hrest
      · exact .inl (.inl hopen)
      · cases params with
        | nil => simp at hinner
        | cons param others => exact .inr ⟨param, List.mem_cons_self, hinner⟩
      · exact .inl (.inr (.inr (.inl hclose)))
      · rcases ih hrest with hsource | ⟨param, hparam, hmem⟩
        · exact .inl (.inr (.inr (.inr hsource)))
        · exact .inr ⟨param, List.mem_of_mem_tail hparam, hmem⟩

/-- What can be taken does not depend on the groups: taking stops at the first. -/
theorem takeInner_refill_eq_none {segs : List Segment} (params : List (List Char))
    (h : takeInner d segs = none) : takeInner d (refill segs params) = none := by
  induction segs with
  | nil => rfl
  | cons seg rest ih =>
    cases seg with
    | group g => rfl
    | literal c =>
      obtain ⟨hc, hrest⟩ := takeInner_literal_eq_none_iff.mp h
      exact takeInner_literal_eq_none_iff.mpr ⟨hc, hrest.imp_right ih⟩

/-- A cut refilled with unbracketed parameters is a cut. -/
theorem IsCut.refill {segs : List Segment} (h : IsCut d segs) {params : List (List Char)}
    (hfree : ∀ param ∈ params, Unbracketed d param) : IsCut d (refill segs params) := by
  induction h generalizing params with
  | nil => exact .nil
  | literal closed _ ih =>
    exact .literal (fun hc => takeInner_refill_eq_none params (closed hc)) (ih hfree)
  | group _ _ ih =>
    cases params with
    | nil => exact .group unbracketed_nil (ih hfree)
    | cons param rest =>
      exact .group (hfree param List.mem_cons_self)
        (ih fun p hp => hfree p (List.mem_cons_of_mem _ hp))

end EffectText.Text
