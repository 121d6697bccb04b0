import EffectText.Proofs.Text.BracketShape
import EffectText.Proofs.Text.Readers

/-! # Pairs of brackets, by their places

    `segments` cuts a text from the right. This module compares the cut with two accounts
    that know nothing of it:

    * **Search**: from the left, the first group that starts here is taken, and the search
      goes on behind it; where no group starts, it moves on by one character
      (`segments_eq_search`).
    * **Pairs**: all places of an opening bracket and a later closing one with no bracket
      between them, listed by place (`pairs`). The groups stand in these pairs, all of them
      and no others (`spansFrom_segments`), so they can be read off the text by place
      (`groups_eq_between`).

    What the cut leaves out stands in the pairs too: emptying the groups drops what is inside
    a pair (`emptied_eq_keptAt`), and dropping the groups drops the brackets of the pair as
    well (`literals_eq_keptAt`).
-/

namespace EffectText.Text

variable {d : Delimiters}

/-! ## Search from the left -/

/-- The group that a text starts with: what stands in it, and what follows it. -/
def groupInFront? (d : Delimiters) : List Char → Option (List Char × List Char)
  | [] => none
  | c :: rest =>
    if c = d.opening then
      match rest.dropWhile (!d.isBracket ·) with
      | [] => none
      | b :: after =>
        if b = d.closing then some (rest.takeWhile (!d.isBracket ·), after) else none
    else none

theorem unbracketed_iff_all {s : List Char} :
    Unbracketed d s ↔ ∀ c ∈ s, (!d.isBracket c) = true := by
  simp [Unbracketed, Delimiters.isBracket]

/-- A text starts with a group exactly when it starts with an opening bracket and the next
    bracket is a closing one. -/
theorem groupInFront?_eq_some_iff {s inner after : List Char} :
    groupInFront? d s = some (inner, after) ↔
      Unbracketed d inner ∧ s = d.opening :: (inner ++ d.closing :: after) := by
  constructor
  · intro h
    cases s with
    | nil => simp [groupInFront?] at h
    | cons c rest =>
      simp only [groupInFront?] at h
      by_cases hc : c = d.opening
      · rw [if_pos hc] at h
        cases hdrop : rest.dropWhile (!d.isBracket ·) with
        | nil => simp [hdrop] at h
        | cons b behind =>
          -- `b` is the next bracket, and the text in front of it holds none
          obtain ⟨hrest, hfree, -⟩ :=
            Reader.takeWhile_eq_and_dropWhile_eq_iff.mp ⟨rfl, hdrop⟩
          rw [hdrop] at h
          by_cases hb : b = d.closing
          · simp only [hb, if_true, Option.some.injEq, Prod.mk.injEq] at h
            obtain ⟨rfl, rfl⟩ := h
            rw [hb] at hrest
            exact ⟨unbracketed_iff_all.mpr hfree, by rw [hc, ← hrest]⟩
          · simp [hb] at h
      · simp [hc] at h
  · intro h
    obtain ⟨hfree, rfl⟩ := h
    have hstop : ∀ c ∈ (d.closing :: after).head?, (!d.isBracket c) = false := by
      simp [Delimiters.isBracket]
    obtain ⟨htake, hdrop⟩ := Reader.takeWhile_eq_and_dropWhile_eq_iff.mpr
      ⟨rfl, unbracketed_iff_all.mp hfree, hstop⟩
    simp only [groupInFront?, if_true, hdrop, htake]

/-- **Search**: the groups of a text, found from the left, none of them overlapping, with the
    characters that are passed over. -/
def search (d : Delimiters) : List Char → List Segment
  | [] => []
  | c :: rest =>
    match _hfront : groupInFront? d (c :: rest) with
    | some (inner, after) => .group inner :: search d after
    | none => .literal c :: search d rest
termination_by s => s.length
decreasing_by
  · have hlength := congrArg List.length (groupInFront?_eq_some_iff.mp _hfront).2
    simp only [List.length_cons, List.length_append] at hlength ⊢
    omega
  · simp

/-- The search from the left finds the cut. -/
theorem segments_eq_search (s : List Char) : segments d s = search d s := by
  fun_induction search d s with
  | case1 => rfl
  | case2 c rest inner after hfront ih =>
    obtain ⟨hfree, heq⟩ := groupInFront?_eq_some_iff.mp hfront
    rw [heq, segments_group hfree, ih]
  | case3 c rest hfront ih =>
    rw [← ih]
    by_cases hc : c = d.opening
    · -- what the bracket could take would be a group in front
      have hnone : takeInner d (segments d rest) = none := by
        rw [Option.eq_none_iff_forall_ne_some]
        intro taken htake
        obtain ⟨inner, after⟩ := taken
        obtain ⟨hfree, hrest⟩ := eq_append_of_takeInner htake
        have hsource := congrArg (source d) hrest
        rw [source_segments, source_append, source_map_literal] at hsource
        have hgroup : groupInFront? d (c :: rest) = some (inner, source d after) :=
          groupInFront?_eq_some_iff.mpr ⟨hfree, by rw [hc, hsource]; rfl⟩
        rw [hfront] at hgroup
        contradiction
      rw [hc, segments_opening, openGroup, hnone]
    · exact segments_cons_of_ne hc rest

/-! ## Pairs -/

/-- What stands strictly between two places of a text. -/
def between (s : List Char) (pair : Nat × Nat) : List Char :=
  (s.take pair.2).drop (pair.1 + 1)

/-- **Pair**: an opening bracket at the first place, a closing bracket at the second, later
    one, and no bracket between them. -/
structure IsPair (d : Delimiters) (s : List Char) (pair : Nat × Nat) : Prop where
  opening : s[pair.1]? = some d.opening
  closing : s[pair.2]? = some d.closing
  ordered : pair.1 < pair.2
  free : Unbracketed d (between s pair)

instance (d : Delimiters) (s : List Char) (pair : Nat × Nat) : Decidable (IsPair d s pair) :=
  decidable_of_iff
    (s[pair.1]? = some d.opening ∧ s[pair.2]? = some d.closing ∧ pair.1 < pair.2 ∧
      Unbracketed d (between s pair))
    ⟨fun ⟨opening, closing, ordered, free⟩ => ⟨opening, closing, ordered, free⟩,
      fun h => ⟨h.opening, h.closing, h.ordered, h.free⟩⟩

/-- **Pairs** of a text: all of them, by the first place and then by the second. -/
def pairs (d : Delimiters) (s : List Char) : List (Nat × Nat) :=
  (List.range s.length).flatMap fun start =>
    ((List.range s.length).map (start, ·)).filter fun pair => IsPair d s pair

example : pairs .square "[a [b] c] [] ]".toList = [(3, 5), (10, 11)] := by decide

theorem mem_pairs_iff {s : List Char} {pair : Nat × Nat} :
    pair ∈ pairs d s ↔ IsPair d s pair := by
  unfold pairs
  simp only [List.mem_flatMap, List.mem_filter, List.mem_map, List.mem_range, decide_eq_true_eq]
  constructor
  · intro h
    obtain ⟨-, -, -, hpair⟩ := h
    exact hpair
  · intro hpair
    obtain ⟨start, stop⟩ := pair
    have hstart : start < s.length := (List.getElem?_eq_some_iff.mp hpair.opening).1
    have hstop : stop < s.length := (List.getElem?_eq_some_iff.mp hpair.closing).1
    exact ⟨start, hstart, ⟨stop, hstop, rfl⟩, hpair⟩

/-- One pair **comes before** another: by the first place, then by the second. -/
def Before (pair next : Nat × Nat) : Prop :=
  pair.1 < next.1 ∨ pair.1 = next.1 ∧ pair.2 < next.2

theorem pairwise_before_pairs (s : List Char) : (pairs d s).Pairwise Before := by
  unfold pairs
  rw [List.pairwise_flatMap]
  constructor
  · intro start _
    apply List.Pairwise.filter
    rw [List.pairwise_map]
    exact List.pairwise_lt_range.imp fun h => .inr ⟨rfl, h⟩
  · refine List.pairwise_lt_range.imp fun hlt pair hpair next hnext => .inl ?_
    obtain ⟨-, -, rfl⟩ := List.mem_map.mp (List.mem_filter.mp hpair).1
    obtain ⟨-, -, rfl⟩ := List.mem_map.mp (List.mem_filter.mp hnext).1
    exact hlt

theorem drop_eq_cons {s : List Char} {place : Nat} {c : Char} (h : s[place]? = some c) :
    s.drop place = c :: s.drop (place + 1) := by
  obtain ⟨hlt, rfl⟩ := List.getElem?_eq_some_iff.mp h
  exact List.drop_eq_getElem_cons hlt

/-- The text up to the closing bracket of a group, and from it on. -/
theorem append_group (front inner after : List Char) :
    front ++ d.opening :: (inner ++ d.closing :: after) =
      (front ++ [d.opening] ++ inner) ++ d.closing :: after := by
  simp

theorem length_append_opening (front inner : List Char) :
    (front ++ [d.opening] ++ inner).length = front.length + inner.length + 1 := by
  simp only [List.length_append, List.length_cons, List.length_nil]
  omega

theorem between_append_group (front inner after : List Char) :
    between (front ++ d.opening :: (inner ++ d.closing :: after))
      (front.length, front.length + inner.length + 1) = inner := by
  unfold between
  rw [append_group, List.take_left' (length_append_opening front inner),
    List.drop_left' (by simp)]

/-- A pair splits the text: what stands in front of it, in it and behind it. -/
theorem isPair_iff {s : List Char} {start stop : Nat} :
    IsPair d s (start, stop) ↔
      ∃ before inner after, s = before ++ d.opening :: (inner ++ d.closing :: after) ∧
        Unbracketed d inner ∧ start = before.length ∧ stop = start + inner.length + 1 := by
  constructor
  · intro h
    have hstop : stop < s.length := (List.getElem?_eq_some_iff.mp h.closing).1
    have hlt : start < stop := h.ordered
    have hopening : (s.take stop)[start]? = some d.opening := by
      rw [List.getElem?_take_of_lt hlt]
      exact h.opening
    refine ⟨s.take start, between s (start, stop), s.drop (stop + 1), ?_, h.free, ?_, ?_⟩
    · calc s
        _ = s.take stop ++ s.drop stop := (List.take_append_drop stop s).symm
        _ = ((s.take stop).take start ++ (s.take stop).drop start) ++ s.drop stop := by
          rw [List.take_append_drop start]
        _ = (s.take start ++ d.opening :: between s (start, stop)) ++
            d.closing :: s.drop (stop + 1) := by
          rw [drop_eq_cons hopening, drop_eq_cons h.closing, List.take_take,
            Nat.min_eq_left (Nat.le_of_lt hlt)]
          rfl
        _ = _ := by simp
    · rw [List.length_take]
      omega
    · simp only [between, List.length_drop, List.length_take]
      omega
  · intro h
    obtain ⟨before, inner, after, rfl, hfree, rfl, rfl⟩ := h
    constructor
    case opening => simp
    case closing =>
      show (before ++ d.opening :: (inner ++ d.closing :: after))[
        before.length + inner.length + 1]? = some d.closing
      rw [append_group, ← length_append_opening (d := d)]
      simp
    case ordered =>
      show before.length < before.length + inner.length + 1
      omega
    case free =>
      rw [between_append_group]
      exact hfree

/-! ## Where groups stand -/

/-- The places of the brackets of groups, in segments that start at place `start`. -/
def spansFrom (start : Nat) : List Segment → List (Nat × Nat)
  | [] => []
  | .literal _ :: rest => spansFrom (start + 1) rest
  | .group inner :: rest =>
    (start, start + inner.length + 1) :: spansFrom (start + inner.length + 2) rest

/-- Groups stand at and behind the start, their opening brackets first. -/
theorem le_of_mem_spansFrom {start : Nat} {segs : List Segment} {pair : Nat × Nat}
    (h : pair ∈ spansFrom start segs) : start ≤ pair.1 ∧ pair.1 < pair.2 := by
  induction segs generalizing start with
  | nil => simp [spansFrom] at h
  | cons seg rest ih =>
    cases seg with
    | literal c =>
      have hrest := ih h
      omega
    | group inner =>
      rcases List.mem_cons.mp h with heq | hrest
      · subst heq
        simp only
        omega
      · have hbehind := ih hrest
        omega

/-- Groups do not overlap: each ends before the next one starts. -/
theorem pairwise_spansFrom (start : Nat) (segs : List Segment) :
    (spansFrom start segs).Pairwise fun pair next => pair.2 < next.1 := by
  induction segs generalizing start with
  | nil => exact .nil
  | cons seg rest ih =>
    cases seg with
    | literal c => exact ih (start + 1)
    | group inner =>
      refine .cons ?_ (ih _)
      intro next hnext
      have hbehind := (le_of_mem_spansFrom hnext).1
      show start + inner.length + 1 < next.1
      omega

/-- Segments behind others start where the text of these ends. -/
theorem spansFrom_append (n : Nat) (segs segs' : List Segment) :
    spansFrom n (segs ++ segs') =
      spansFrom n segs ++ spansFrom (n + (source d segs).length) segs' := by
  induction segs generalizing n with
  | nil => rfl
  | cons seg rest ih =>
    cases seg with
    | literal c =>
      have hplace : n + (c :: source d rest).length = n + 1 + (source d rest).length := by
        rw [List.length_cons]
        omega
      simp only [List.cons_append, spansFrom, source]
      rw [ih, hplace]
    | group inner =>
      have hplace : n + (source d (.group inner :: rest)).length =
          n + inner.length + 2 + (source d rest).length := by
        simp only [source, List.length_cons, List.length_append]
        omega
      rw [hplace]
      simp only [List.cons_append, spansFrom]
      rw [ih]

/-- A group that stands somewhere splits the list of segments. -/
theorem mem_spansFrom_iff {n start stop : Nat} {segs : List Segment} :
    (start, stop) ∈ spansFrom n segs ↔
      ∃ before inner after, segs = before ++ .group inner :: after ∧
        start = n + (source d before).length ∧ stop = start + inner.length + 1 := by
  constructor
  · intro h
    induction segs generalizing n with
    | nil => simp [spansFrom] at h
    | cons seg rest ih =>
      cases seg with
      | literal c =>
        obtain ⟨before, inner, after, rfl, hstart, hstop⟩ := ih h
        refine ⟨.literal c :: before, inner, after, rfl, ?_, hstop⟩
        simp only [source, List.length_cons]
        omega
      | group g =>
        rcases List.mem_cons.mp h with heq | hrest
        · obtain ⟨rfl, rfl⟩ := Prod.mk.inj heq
          exact ⟨[], g, rest, rfl, rfl, rfl⟩
        · obtain ⟨before, inner, after, rfl, hstart, hstop⟩ := ih hrest
          refine ⟨.group g :: before, inner, after, rfl, ?_, hstop⟩
          simp only [source, List.length_cons, List.length_append]
          omega
  · intro h
    obtain ⟨before, inner, after, rfl, rfl, rfl⟩ := h
    rw [spansFrom_append (d := d)]
    exact List.mem_append_right _ List.mem_cons_self

/-- The groups of a text stand in its pairs, and every pair holds one. -/
theorem mem_spansFrom_segments_iff {s : List Char} {pair : Nat × Nat} :
    pair ∈ spansFrom 0 (segments d s) ↔ IsPair d s pair := by
  obtain ⟨start, stop⟩ := pair
  rw [mem_spansFrom_iff (d := d), isPair_iff]
  constructor
  · intro h
    obtain ⟨before, inner, after, hsegs, hstart, hstop⟩ := h
    have hfree : Unbracketed d inner :=
      (isCut_segments s).unbracketed_of_mem_groups (by simp [hsegs, groups])
    refine ⟨source d before, inner, source d after, ?_, hfree, by omega, hstop⟩
    rw [← source_segments d s, hsegs, source_append]
    rfl
  · intro h
    obtain ⟨before, inner, after, rfl, hfree, hstart, hstop⟩ := h
    refine ⟨segments d before, inner, segments d after, segments_append_group hfree _ _, ?_, hstop⟩
    rw [source_segments]
    omega

/-- **Places**: the brackets of the groups are the pairs of the text, in order. -/
theorem spansFrom_segments (s : List Char) : spansFrom 0 (segments d s) = pairs d s := by
  have hspans : (spansFrom 0 (segments d s)).Pairwise Before := by
    refine (pairwise_spansFrom 0 _).imp_of_mem fun hpair _ hlt => ?_
    have hordered := (le_of_mem_spansFrom hpair).2
    exact .inl (by omega)
  have hne : ∀ {pair next : Nat × Nat}, Before pair next → pair ≠ next := by
    intro pair next hbefore heq
    subst heq
    simp [Before] at hbefore
  have hperm : (spansFrom 0 (segments d s)).Perm (pairs d s) := by
    rw [List.perm_ext_iff_of_nodup (hspans.imp hne) ((pairwise_before_pairs s).imp hne)]
    intro pair
    rw [mem_spansFrom_segments_iff, mem_pairs_iff]
  -- two lists in the same order with the same members are the same
  refine hperm.eq_of_pairwise ?_ hspans (pairwise_before_pairs s)
  intro pair next _ _ hbefore hafter
  simp only [Before] at hbefore hafter
  omega

/-- Pairs do not overlap. -/
theorem pairwise_pairs (s : List Char) :
    (pairs d s).Pairwise fun pair next => pair.2 < next.1 := by
  rw [← spansFrom_segments]
  exact pairwise_spansFrom 0 _

theorem map_between_spansFrom (front : List Char) (segs : List Segment) :
    (spansFrom front.length segs).map (between (front ++ source d segs)) = groups segs := by
  induction segs generalizing front with
  | nil => rfl
  | cons seg rest ih =>
    cases seg with
    | literal c =>
      have hrest := ih (front ++ [c])
      simpa [spansFrom, source, groups] using hrest
    | group inner =>
      have hrest := ih (front ++ d.opening :: (inner ++ [d.closing]))
      have hlength : (front ++ d.opening :: (inner ++ [d.closing])).length =
          front.length + inner.length + 2 := by
        simp only [List.length_append, List.length_cons, List.length_nil]
        omega
      have htext : (front ++ d.opening :: (inner ++ [d.closing])) ++ source d rest =
          front ++ d.opening :: (inner ++ d.closing :: source d rest) := by simp
      rw [hlength, htext] at hrest
      simp only [spansFrom, source, groups, List.map_cons]
      rw [between_append_group, hrest]

/-- **Reading by place**: the groups of a text are what stands between its pairs. -/
theorem groups_eq_between (s : List Char) :
    groups (segments d s) = (pairs d s).map (between s) := by
  have hmap := map_between_spansFrom (d := d) [] (segments d s)
  rw [List.nil_append, source_segments] at hmap
  rw [← spansFrom_segments, ← hmap]
  rfl

/-! ## Keeping characters by place -/

/-- The characters of a text whose places are kept, if the text starts at place `start`. -/
def keptFrom (start : Nat) (s : List Char) (keep : Nat → Bool) : List Char :=
  ((s.zipIdx start).filter fun entry => keep entry.2).map Prod.fst

/-- **Kept characters** of a text, in order. -/
def keptAt (s : List Char) (keep : Nat → Bool) : List Char := keptFrom 0 s keep

theorem keptFrom_cons (start : Nat) (c : Char) (s : List Char) (keep : Nat → Bool) :
    keptFrom start (c :: s) keep =
      if keep start then c :: keptFrom (start + 1) s keep else keptFrom (start + 1) s keep := by
  by_cases h : keep start = true <;> simp [keptFrom, List.zipIdx_cons, h]

theorem keptFrom_append (start : Nat) (s s' : List Char) (keep : Nat → Bool) :
    keptFrom start (s ++ s') keep =
      keptFrom start s keep ++ keptFrom (start + s.length) s' keep := by
  simp [keptFrom, List.zipIdx_append]

/-- Only the places that the text has matter. -/
theorem keptFrom_congr {start : Nat} {s : List Char} {keep keep' : Nat → Bool}
    (h : ∀ place, start ≤ place → place < start + s.length → keep place = keep' place) :
    keptFrom start s keep = keptFrom start s keep' := by
  unfold keptFrom
  congr 1
  apply List.filter_congr
  intro entry hentry
  exact h entry.2 (List.le_snd_of_mem_zipIdx hentry) (List.snd_lt_add_of_mem_zipIdx hentry)

/-- A text without a place that is kept. -/
theorem keptFrom_eq_nil {start : Nat} {s : List Char} {keep : Nat → Bool}
    (h : ∀ place, start ≤ place → place < start + s.length → keep place = false) :
    keptFrom start s keep = [] := by
  have hnone : keptFrom start s keep = keptFrom start s fun _ => false := keptFrom_congr h
  rw [hnone]
  simp [keptFrom]

/-! ## What a cut leaves out -/

/-- The text with the same characters in place of every group. -/
def reduced (shell : List Char) : List Segment → List Char
  | [] => []
  | .literal c :: rest => c :: reduced shell rest
  | .group _ :: rest => shell ++ reduced shell rest

theorem emptied_eq_reduced (segs : List Segment) :
    emptied d segs = reduced [d.opening, d.closing] segs := by
  induction segs with
  | nil => rfl
  | cons seg rest ih => cases seg <;> simp [emptied, reduced, ih]

theorem literals_eq_reduced (segs : List Segment) : literals segs = reduced [] segs := by
  induction segs with
  | nil => rfl
  | cons seg rest ih => cases seg <;> simp [literals, reduced, ih]

/-- Dropping some places of each pair, and none outside the pairs, leaves the same of every
    group and all other characters. -/
theorem keptFrom_source (dropped : Nat × Nat → Nat → Bool) (shell : List Char)
    (hwithin : ∀ pair place, dropped pair place = true → pair.1 ≤ place ∧ place ≤ pair.2)
    (hshell : ∀ start inner, keptFrom start (d.opening :: (inner ++ [d.closing]))
      (fun place => !dropped (start, start + inner.length + 1) place) = shell)
    (start : Nat) (segs : List Segment) :
    keptFrom start (source d segs)
        (fun place => (spansFrom start segs).all fun pair => !dropped pair place) =
      reduced shell segs := by
  -- a place in front of a list of groups is in none of them
  have hfront : ∀ (place behind : Nat) (rest : List Segment), place < behind →
      ((spansFrom behind rest).all fun pair => !dropped pair place) = true := by
    intro place behind rest hlt
    rw [List.all_eq_true]
    intro pair hpair
    have hbehind := (le_of_mem_spansFrom hpair).1
    rw [Bool.not_eq_true', Bool.eq_false_iff]
    intro hdropped
    have hpast := (hwithin pair place hdropped).1
    omega
  induction segs generalizing start with
  | nil => rfl
  | cons seg rest ih =>
    cases seg with
    | literal c =>
      have hkept := hfront start (start + 1) rest (Nat.lt_succ_self start)
      simp only [source, spansFrom, reduced]
      rw [keptFrom_cons, if_pos hkept, ih]
    | group inner =>
      have htext : source d (.group inner :: rest) =
          (d.opening :: (inner ++ [d.closing])) ++ source d rest := by
        simp [source]
      have hlength : (d.opening :: (inner ++ [d.closing])).length = inner.length + 2 := by
        simp
      rw [htext, keptFrom_append, hlength]
      simp only [spansFrom, reduced, List.all_cons]
      congr 1
      · -- in the group, only its own pair drops characters
        rw [← hshell start inner]
        apply keptFrom_congr
        intro place _ hlt
        rw [hlength] at hlt
        rw [hfront place _ rest (by omega), Bool.and_true]
      · -- behind the group, its own pair drops none
        rw [← ih]
        apply keptFrom_congr
        intro place hle _
        have hout : dropped (start, start + inner.length + 1) place = false := by
          rw [Bool.eq_false_iff]
          intro hdropped
          have hpast : place ≤ start + inner.length + 1 := (hwithin _ place hdropped).2
          omega
        rw [hout, Bool.not_false, Bool.true_and]
        rfl

/-- Strictly inside a pair. -/
def inside (pair : Nat × Nat) (place : Nat) : Bool := pair.1 < place && place < pair.2

/-- Inside a pair, or one of its brackets. -/
def within (pair : Nat × Nat) (place : Nat) : Bool := pair.1 ≤ place && place ≤ pair.2

/-- **Emptying** drops what stands strictly inside a pair, and nothing else. -/
theorem emptied_eq_keptAt (s : List Char) :
    emptied d (segments d s) =
      keptAt s fun place => (pairs d s).all fun pair => !inside pair place := by
  rw [emptied_eq_reduced, ← spansFrom_segments]
  have hkept := keptFrom_source (d := d) inside [d.opening, d.closing] ?_ ?_ 0 (segments d s)
  · rw [source_segments] at hkept
    exact hkept.symm
  · intro pair place h
    simp only [inside, Bool.and_eq_true, decide_eq_true_eq] at h
    omega
  · -- of a group, the brackets stay
    intro start inner
    have hopening : (!inside (start, start + inner.length + 1) start) = true := by
      simp only [inside, Bool.not_eq_true', Bool.and_eq_false_iff, decide_eq_false_iff_not]
      omega
    have hclosing :
        (!inside (start, start + inner.length + 1) (start + 1 + inner.length)) = true := by
      simp only [inside, Bool.not_eq_true', Bool.and_eq_false_iff, decide_eq_false_iff_not]
      omega
    have hinner : keptFrom (start + 1) inner
        (fun place => !inside (start, start + inner.length + 1) place) = [] := by
      apply keptFrom_eq_nil
      intro place hle hlt
      simp only [inside, Bool.not_eq_false', Bool.and_eq_true, decide_eq_true_eq]
      omega
    rw [keptFrom_cons, if_pos hopening, keptFrom_append, hinner, keptFrom_cons, if_pos hclosing]
    rfl

/-- **Dropping** the groups drops the pairs with all that stands in them, and nothing else. -/
theorem literals_eq_keptAt (s : List Char) :
    literals (segments d s) =
      keptAt s fun place => (pairs d s).all fun pair => !within pair place := by
  rw [literals_eq_reduced, ← spansFrom_segments]
  have hkept := keptFrom_source (d := d) within [] ?_ ?_ 0 (segments d s)
  · rw [source_segments] at hkept
    exact hkept.symm
  · intro pair place h
    simp only [within, Bool.and_eq_true, decide_eq_true_eq] at h
    omega
  · -- of a group, nothing stays
    intro start inner
    apply keptFrom_eq_nil
    intro place hle hlt
    simp only [List.length_cons, List.length_append, List.length_nil] at hlt
    simp only [within, Bool.not_eq_false', Bool.and_eq_true, decide_eq_true_eq]
    omega

end EffectText.Text
