import EffectText.Proofs.Text.Cut

/-! # The shape of brackets in a text

    Where groups stand depends on the brackets of a text alone, so the other characters
    can be dropped before cutting (`segments_brackets`). On brackets alone:

    * A text has a group exactly when an opening bracket is next to a closing one
      (`groups_segments_eq_nil_iff`).
    * Dropping the groups brings two such brackets together exactly when they enclosed
      one or more pairs and nothing else (`pair_infix_literals_iff`).
-/

namespace EffectText.Text

variable {d : Delimiters}

/-! ## Brackets alone -/

/-- The **brackets** of a text, in order. -/
def brackets (d : Delimiters) (s : List Char) : List Char := s.filter d.isBracket

@[simp] theorem brackets_append (s s' : List Char) :
    brackets d (s ++ s') = brackets d s ++ brackets d s' :=
  List.filter_append s s'

@[simp] theorem brackets_opening_cons (s : List Char) :
    brackets d (d.opening :: s) = d.opening :: brackets d s := by
  simp [brackets, Delimiters.isBracket]

@[simp] theorem brackets_closing_cons (s : List Char) :
    brackets d (d.closing :: s) = d.closing :: brackets d s := by
  simp [brackets, Delimiters.isBracket]

theorem brackets_of_unbracketed {s : List Char} (h : Unbracketed d s) : brackets d s = [] :=
  unbracketed_iff_filter.mp h

/-- **Bare segments**: only the brackets outside the groups, and the groups, emptied. -/
def bare (d : Delimiters) : List Segment → List Segment
  | [] => []
  | .literal c :: rest => if d.isBracket c then .literal c :: bare d rest else bare d rest
  | .group _ :: rest => .group [] :: bare d rest

theorem literals_bare (segs : List Segment) :
    literals (bare d segs) = brackets d (literals segs) := by
  unfold brackets
  induction segs with
  | nil => rfl
  | cons seg rest ih =>
    cases seg with
    | group inner => exact ih
    | literal c => by_cases hc : d.isBracket c = true <;> simp [bare, hc, literals, ih]

theorem groups_bare (segs : List Segment) :
    groups (bare d segs) = (groups segs).map fun _ => [] := by
  induction segs with
  | nil => rfl
  | cons seg rest ih =>
    cases seg with
    | group inner => simp [bare, groups, ih]
    | literal c => by_cases hc : d.isBracket c = true <;> simp [bare, hc, groups, ih]

theorem source_bare {segs : List Segment} (h : IsCut d segs) :
    source d (bare d segs) = brackets d (source d segs) := by
  induction h with
  | nil => rfl
  | @literal c rest _ _ ih =>
    by_cases hc : d.isBracket c = true
    · simp [bare, hc, source, brackets, ih]
    · simp [bare, hc, source, brackets, ih]
  | group free _ ih => simp [bare, source, brackets_of_unbracketed free, ih]

theorem takeInner_bare_eq_none {segs : List Segment} (h : takeInner d segs = none) :
    takeInner d (bare d segs) = none := by
  induction segs with
  | nil => rfl
  | cons seg rest ih =>
    cases seg with
    | group inner => rfl
    | literal c =>
      obtain ⟨hc, hrest⟩ := takeInner_literal_eq_none_iff.mp h
      unfold bare
      split
      · exact takeInner_literal_eq_none_iff.mpr ⟨hc, hrest.imp_right ih⟩
      · next hbracket =>
        have ho : c ≠ d.opening := by
          rintro rfl
          simp [Delimiters.isBracket] at hbracket
        exact ih (hrest.resolve_left ho)

theorem IsCut.bare {segs : List Segment} (h : IsCut d segs) : IsCut d (bare d segs) := by
  induction h with
  | nil => exact .nil
  | @literal c rest closed _ ih =>
    unfold Text.bare
    split
    · exact .literal (fun hc => takeInner_bare_eq_none (closed hc)) ih
    · exact ih
  | group _ _ ih => exact .group unbracketed_nil ih

/-- Cutting the brackets alone finds the same brackets and groups. -/
theorem segments_brackets (s : List Char) :
    segments d (brackets d s) = bare d (segments d s) := by
  rw [segments_eq_iff]
  constructor
  · exact (isCut_segments s).bare
  · rw [source_bare (isCut_segments s), source_segments]

/-! ## Finding a group -/

/-- A group in the middle of a list. -/
theorem exists_group_of_mem_groups {segs : List Segment} {inner : List Char}
    (h : inner ∈ groups segs) : ∃ before after, segs = before ++ .group inner :: after := by
  induction segs with
  | nil => simp [groups] at h
  | cons seg rest ih =>
    cases seg with
    | literal c =>
      obtain ⟨before, after, rfl⟩ := ih h
      exact ⟨.literal c :: before, after, rfl⟩
    | group g =>
      rcases List.mem_cons.mp h with rfl | hrest
      · exact ⟨[], rest, rfl⟩
      · obtain ⟨before, after, rfl⟩ := ih hrest
        exact ⟨.group g :: before, after, rfl⟩

/-- **Groups**: what stands between an opening bracket and a closing one, with no bracket
    in between. -/
theorem mem_groups_segments_iff {s inner : List Char} :
    inner ∈ groups (segments d s) ↔
      Unbracketed d inner ∧
        ∃ before after, s = before ++ d.opening :: (inner ++ d.closing :: after) := by
  constructor
  · intro hmem
    refine ⟨(isCut_segments s).unbracketed_of_mem_groups hmem, ?_⟩
    obtain ⟨before, after, heq⟩ := exists_group_of_mem_groups hmem
    refine ⟨source d before, source d after, ?_⟩
    rw [← source_segments d s, heq]
    simp [source]
  · rintro ⟨hfree, before, after, rfl⟩
    rw [segments_append_group hfree]
    simp [groups]

/-- A text has no groups exactly when no opening bracket is followed by a closing one
    among its brackets. -/
theorem groups_segments_eq_nil_iff (s : List Char) :
    groups (segments d s) = [] ↔ ¬ [d.opening, d.closing] <:+: brackets d s := by
  constructor
  · rintro hnil ⟨before, after, heq⟩
    have hbare : groups (segments d (brackets d s)) = [] := by
      rw [segments_brackets, groups_bare, hnil]
      rfl
    have hpair : segments d (d.opening :: d.closing :: after) = .group [] :: segments d after :=
      segments_group unbracketed_nil after
    rw [← heq, List.append_assoc] at hbare
    simp [segments_append_opening, hpair, groups] at hbare
  · intro hpair
    rw [List.eq_nil_iff_forall_not_mem]
    intro inner hmem
    obtain ⟨hfree, before, after, rfl⟩ := mem_groups_segments_iff.mp hmem
    apply hpair
    refine ⟨brackets d before, brackets d after, ?_⟩
    simp [brackets_of_unbracketed hfree]

/-! ## What dropping the groups brings together -/

/-- **Enclosed pairs**: an opening bracket, `n` pairs of brackets, a closing bracket. -/
def enclosedPairs (d : Delimiters) (n : Nat) : List Char :=
  d.opening :: ((List.replicate n [d.opening, d.closing]).flatten ++ [d.closing])

@[simp] theorem literals_replicate_group (n : Nat) :
    literals (List.replicate n (.group [])) = [] := by
  induction n with
  | zero => rfl
  | succ n ih => exact ih

@[simp] theorem source_replicate_group (n : Nat) :
    source d (List.replicate n (.group [])) =
      (List.replicate n [d.opening, d.closing]).flatten := by
  induction n with
  | zero => rfl
  | succ n ih => simp [List.replicate_succ, source, ih]

theorem segments_pairs_append (n : Nat) (s : List Char) :
    segments d ((List.replicate n [d.opening, d.closing]).flatten ++ s) =
      List.replicate n (.group []) ++ segments d s := by
  induction n with
  | zero => rfl
  | succ n ih =>
    have hpair (t : List Char) :
        segments d (d.opening :: d.closing :: t) = .group [] :: segments d t :=
      segments_group unbracketed_nil t
    simp [List.replicate_succ, hpair, ih]

/-- The brackets around pairs are outside all groups: a pair stands in the way. -/
theorem segments_enclosedPairs_append {n : Nat} (hn : 0 < n) (s : List Char) :
    segments d (enclosedPairs d n ++ s) =
      .literal d.opening ::
        (List.replicate n (.group []) ++ .literal d.closing :: segments d s) := by
  obtain ⟨m, rfl⟩ : ∃ m, n = m + 1 := ⟨n - 1, by omega⟩
  have hclosing : segments d (d.closing :: s) = .literal d.closing :: segments d s :=
    segments_cons_of_ne d.opening_ne_closing.symm s
  simp only [enclosedPairs, List.cons_append, List.append_assoc, List.nil_append]
  rw [segments_opening, segments_pairs_append, hclosing, List.replicate_succ]
  rfl

/-- A character outside the groups, in the middle of a list. -/
theorem exists_literal_of_literals_eq {segs : List Segment} {c : Char} {front back : List Char}
    (h : literals segs = front ++ c :: back) :
    ∃ before after, segs = before ++ .literal c :: after ∧ literals before = front ∧
      literals after = back := by
  induction segs generalizing front with
  | nil => simp [literals] at h
  | cons seg rest ih =>
    cases seg with
    | group inner =>
      obtain ⟨before, after, rfl, hfront, hback⟩ := ih h
      exact ⟨.group inner :: before, after, rfl, hfront, hback⟩
    | literal b =>
      cases front with
      | nil =>
        obtain ⟨rfl, hrest⟩ := List.cons.inj h
        exact ⟨[], rest, rfl, rfl, hrest⟩
      | cons f front =>
        obtain ⟨rfl, hrest⟩ := List.cons.inj h
        obtain ⟨before, after, rfl, hfront, hback⟩ := ih hrest
        exact ⟨.literal b :: before, after, rfl, by simp [literals, hfront], hback⟩

/-- Segments without characters, and with empty groups only. -/
theorem eq_replicate_of_literals_eq_nil {segs : List Segment} (h : literals segs = [])
    (hempty : ∀ inner ∈ groups segs, inner = []) :
    segs = List.replicate segs.length (.group []) := by
  induction segs with
  | nil => rfl
  | cons seg rest ih =>
    cases seg with
    | literal c => simp [literals] at h
    | group inner =>
      have hinner : inner = [] := hempty inner List.mem_cons_self
      have hrest := ih h fun g hg => hempty g (List.mem_cons_of_mem _ hg)
      rw [List.length_cons, List.replicate_succ, ← hrest, hinner]

/-- Two brackets that come together enclosed pairs: between them stand groups only, and
    at least one, since the opening bracket has nothing to take. -/
theorem enclosedPairs_infix_of_pair_infix {segs : List Segment} (hcut : IsCut d segs)
    (hempty : ∀ inner ∈ groups segs, inner = [])
    (h : [d.opening, d.closing] <:+: literals segs) :
    ∃ n, 0 < n ∧ enclosedPairs d n <:+: source d segs := by
  obtain ⟨front, back, heq⟩ := h
  have hsplit : literals segs = front ++ d.opening :: (d.closing :: back) := by
    simpa using heq.symm
  obtain ⟨before, after, rfl, -, hafter⟩ := exists_literal_of_literals_eq hsplit
  rw [← List.nil_append (d.closing :: back)] at hafter
  obtain ⟨mid, rest, rfl, hmid, -⟩ := exists_literal_of_literals_eq hafter
  have hreplicate : mid = List.replicate mid.length (.group []) :=
    eq_replicate_of_literals_eq_nil hmid fun inner hinner =>
      hempty inner (by simp [groups, hinner])
  have hpos : 0 < mid.length := by
    rw [List.length_pos_iff]
    rintro rfl
    cases hcut.of_append with
    | literal closed _ => simp [takeInner] at closed
  refine ⟨mid.length, hpos, source d before, source d rest, ?_⟩
  rw [hreplicate]
  simp [source, enclosedPairs]

/-- Brackets that enclose pairs come together. -/
theorem pair_infix_of_enclosedPairs_infix {n : Nat} (hn : 0 < n) {s : List Char}
    (h : enclosedPairs d n <:+: s) : [d.opening, d.closing] <:+: literals (segments d s) := by
  obtain ⟨front, back, rfl⟩ := h
  have hsplit : segments d (front ++ enclosedPairs d n ++ back) =
      segments d front ++ segments d (enclosedPairs d n ++ back) := by
    rw [List.append_assoc]
    exact segments_append_opening front _
  refine ⟨literals (segments d front), literals (segments d back), ?_⟩
  rw [hsplit, segments_enclosedPairs_append hn]
  simp [literals]

/-- Dropping the groups of a text brings an opening and a closing bracket together
    exactly when they enclosed one or more pairs. -/
theorem pair_infix_literals_iff (s : List Char) :
    [d.opening, d.closing] <:+: brackets d (literals (segments d s)) ↔
      ∃ n, 0 < n ∧ enclosedPairs d n <:+: brackets d s := by
  rw [← literals_bare, ← segments_brackets]
  constructor
  · intro h
    have hempty : ∀ inner ∈ groups (segments d (brackets d s)), inner = [] := by
      rw [segments_brackets, groups_bare]
      simp
    simpa [source_segments] using
      enclosedPairs_infix_of_pair_infix (isCut_segments _) hempty h
  · rintro ⟨n, hn, h⟩
    exact pair_infix_of_enclosedPairs_infix hn h

end EffectText.Text
