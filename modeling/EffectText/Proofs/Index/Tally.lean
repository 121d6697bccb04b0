import EffectText.Proofs.Index.Grouping
import Mathlib

/-! # What a tally counts

    A tally lists every key once, where it appears first, with the number of its
    occurrences (`tally_eq`). So no occurrence is left out (`sum_tally`).

    An index counts the keys of its elements, which it goes through group by group. The
    keys of a group are all the same, so the count of a key is the length of its group.

    * `Index.run_counts_groups`: after any operations, an index by kind counts the groups
      that it answers with.
-/

namespace EffectText

variable {κ : Type} [DecidableEq κ]

theorem tally_snoc (keys : List κ) (k : κ) : tally (keys ++ [k]) = countOne k (tally keys) := by
  simp [tally]

/-- A key that is counted already gets one more. -/
theorem countOne_of_mem {keys : List κ} {k : κ} (hnodup : keys.Nodup) (hk : k ∈ keys)
    (count : κ → Nat) :
    countOne k (keys.map fun other => (other, count other)) =
      keys.map fun other => (other, if other = k then count other + 1 else count other) := by
  induction keys with
  | nil => contradiction
  | cons first keys ih =>
    obtain ⟨hfirst, hnodup⟩ := List.nodup_cons.mp hnodup
    rw [List.map_cons, List.map_cons, countOne]
    by_cases heq : first = k
    · subst heq
      have hrest : (keys.map fun other => (other, count other)) =
          keys.map fun other => (other, if other = first then count other + 1 else count other) :=
        List.map_congr_left fun other hother => by
          rw [if_neg (ne_of_mem_of_not_mem hother hfirst)]
      rw [if_pos rfl, if_pos rfl, hrest]
    · rw [if_neg heq, if_neg heq, ih hnodup ((List.mem_cons.mp hk).resolve_left (Ne.symm heq))]

/-- A key that is not counted yet goes last. -/
theorem countOne_of_not_mem {keys : List κ} {k : κ} (hk : k ∉ keys) (count : κ → Nat) :
    countOne k (keys.map fun other => (other, count other)) =
      (keys.map fun other => (other, count other)) ++ [(k, 1)] := by
  induction keys with
  | nil => rfl
  | cons first keys ih =>
    obtain ⟨hfirst, hk⟩ := not_or.mp (List.mem_cons.not.mp hk)
    rw [List.map_cons, countOne, if_neg (Ne.symm hfirst), ih hk, List.cons_append]

/-- A tally gives each key, in the order of first appearance, how often it occurs. -/
theorem tally_eq (keys : List κ) :
    tally keys = keys.eraseDups.map fun k => (k, keys.count k) := by
  induction keys using List.reverseRecOn with
  | nil => rfl
  | append_singleton keys k ih =>
    rw [tally_snoc, ih]
    -- the last key is counted already, or goes last with the count one
    by_cases hk : k ∈ keys
    · rw [eraseDups_snoc_of_mem hk,
        countOne_of_mem (nodup_eraseDups keys) (List.mem_eraseDups.mpr hk)]
      apply List.map_congr_left
      intro other _
      by_cases heq : other = k
      · simp [heq]
      · simp [heq, Ne.symm heq]
    · rw [eraseDups_snoc_of_not_mem hk,
        countOne_of_not_mem fun hmem => hk (List.mem_eraseDups.mp hmem), List.map_append]
      congr 1
      · apply List.map_congr_left
        intro other hother
        have hne : k ≠ other := (ne_of_mem_of_not_mem (List.mem_eraseDups.mp hother) hk).symm
        simp [hne]
      · simp [List.count_eq_zero_of_not_mem hk]

example : tally ["Gold", "Food", "Gold"] = [("Gold", 2), ("Food", 1)] := by decide

/-- The counts of a tally add up to the number of keys. -/
theorem sum_tally (keys : List κ) : ((tally keys).map Prod.snd).sum = keys.length := by
  have hperm : keys.eraseDups.Perm keys.dedup := by
    rw [List.perm_ext_iff_of_nodup (nodup_eraseDups keys) keys.nodup_dedup]
    simp only [List.mem_eraseDups, List.mem_dedup, implies_true]
  rw [tally_eq, List.map_map]
  calc (keys.eraseDups.map fun k => keys.count k).sum
    _ = (keys.dedup.map fun k => keys.count k).sum := (hperm.map _).sum_nat
    _ = keys.length := List.sum_map_count_dedup_eq_length keys

/-! ## Repeated keys -/

/-- A key that is repeated appears first once. -/
theorem eraseDups_replicate {n : Nat} (hn : 0 < n) (k : κ) :
    (List.replicate n k).eraseDups = [k] := by
  obtain ⟨n, rfl⟩ := Nat.exists_eq_add_of_lt hn
  rw [Nat.zero_add, List.replicate_succ, List.eraseDups_cons, List.filter_eq_nil_iff.mpr]
  · rfl
  · simp

/-- Different keys, each repeated in its place, appear first in their own order. -/
theorem eraseDups_flatMap_replicate {keys : List κ} (hnodup : keys.Nodup) {count : κ → Nat}
    (hcount : ∀ k ∈ keys, 0 < count k) :
    (keys.flatMap fun k => List.replicate (count k) k).eraseDups = keys := by
  induction keys with
  | nil => rfl
  | cons k keys ih =>
    obtain ⟨hk, hnodup⟩ := List.nodup_cons.mp hnodup
    rw [List.forall_mem_cons] at hcount
    -- no later key is `k`, so none of them has appeared before
    have hothers : (keys.flatMap fun k => List.replicate (count k) k).removeAll
        (List.replicate (count k) k) = keys.flatMap fun k => List.replicate (count k) k := by
      apply List.filter_eq_self.mpr
      intro other hother
      obtain ⟨key, hkey, hrepeated⟩ := List.mem_flatMap.mp hother
      obtain rfl := List.eq_of_mem_replicate hrepeated
      have hne : other ≠ k := ne_of_mem_of_not_mem hkey hk
      simp [hne]
    rw [List.flatMap_cons, List.eraseDups_append, hothers, eraseDups_replicate hcount.1,
      ih hnodup hcount.2, List.singleton_append]

/-! ## Counts of an index -/

namespace Index

variable {α : Type} [Hashable κ] {key : α → Option κ}

namespace Groups

variable {index : Index key} {elements : List α}

/-- The counts of an index add up to its size: every element of it has a key. -/
theorem sum_counts (h : index.Groups elements) :
    (index.counts.map Prod.snd).sum = index.size := by
  have hkeyed : ∀ element ∈ index.toList, (key element).isSome = true := by
    intro element hmem
    rw [h.toList, List.mem_flatMap] at hmem
    obtain ⟨k, -, hget⟩ := hmem
    rw [h.get, List.mem_filter] at hget
    rw [of_decide_eq_true hget.2, Option.isSome_some]
  unfold counts Index.size
  rw [sum_tally, List.length_filterMap_eq_countP, List.countP_eq_length]
  exact hkeyed

theorem get_ne_nil_iff (h : index.Groups elements) (k : κ) :
    index.get k ≠ [] ↔ k ∈ elements.filterMap key := by
  rw [h.get, ne_eq, List.filter_eq_nil_iff, List.mem_filterMap]
  simp

/-- Every element in the group of a key has this key. -/
theorem filterMap_key_get (h : index.Groups elements) (k : κ) :
    (index.get k).filterMap key = List.replicate (index.get k).length k := by
  have hkey : ∀ element ∈ index.get k, key element = some k := by
    intro element hmem
    rw [h.get] at hmem
    exact of_decide_eq_true (List.mem_filter.mp hmem).2
  rw [List.filterMap_congr hkey, ← List.map_const', ← List.filterMap_eq_map]
  rfl

/-- Counting goes group by group: the keys are counted in the order of the groups, each as
    often as its group is long. -/
theorem counts_eq (h : index.Groups elements) :
    index.counts =
      (elements.filterMap key).eraseDups.map fun k => (k, (index.get k).length) := by
  have hgroups : index.toList.filterMap key =
      (elements.filterMap key).eraseDups.flatMap fun k =>
        List.replicate (index.get k).length k := by
    rw [h.toList, List.filterMap_flatMap]
    simp only [h.filterMap_key_get]
  have hkeys : (index.toList.filterMap key).eraseDups = (elements.filterMap key).eraseDups := by
    rw [hgroups]
    apply eraseDups_flatMap_replicate (nodup_eraseDups _)
    intro k hk
    rw [List.mem_eraseDups, ← h.get_ne_nil_iff] at hk
    exact List.length_pos_iff.mpr hk
  have hcount : ∀ k, (index.toList.filterMap key).count k = (index.get k).length := by
    intro k
    rw [(h.perm.filterMap key).count_eq, List.count_filterMap, h.get,
      List.countP_eq_length_filter]
    simp only [beq_eq_decide]
  unfold counts
  rw [tally_eq, hkeys]
  simp only [hcount]

end Groups

/-- The counts of an index made of elements, told from the elements. -/
theorem counts_ofList (elements : List α) :
    (ofList elements : Index key).counts =
      (elements.filterMap key).eraseDups.map fun k =>
        (k, elements.countP fun element => key element = some k) := by
  rw [(groups_ofList elements).counts_eq, filterMap_key_filter_isSome]
  simp only [(Holds.ofList elements).get_eq_filter, List.countP_eq_length_filter]

/-- An index **counts its groups**: its counts fit what it answers, when elements with
    these keys went into it. -/
structure CountsGroups (index : Index key) (keys : List κ) : Prop where
  /-- No key is counted twice. -/
  nodup : (index.counts.map Prod.fst).Nodup
  /-- The keys are counted in the order in which they came first. -/
  order : index.counts.map Prod.fst = keys.eraseDups
  /-- The keys that are counted are those of elements. -/
  mem_iff : ∀ k : κ, k ∈ index.counts.map Prod.fst ↔ index.get k ≠ []
  /-- The count of a key is the number of its elements. -/
  count : ∀ (k : κ) (n : Nat), (k, n) ∈ index.counts → n = (index.get k).length
  sum : (index.counts.map Prod.snd).sum = index.size

theorem Groups.countsGroups {index : Index key} {elements : List α}
    (h : index.Groups elements) : index.CountsGroups (elements.filterMap key) := by
  have hkeys : index.counts.map Prod.fst = (elements.filterMap key).eraseDups := by
    rw [h.counts_eq, List.map_map]
    exact List.map_id' _
  constructor
  case nodup =>
    rw [hkeys]
    exact nodup_eraseDups _
  case order => exact hkeys
  case mem_iff =>
    intro k
    rw [hkeys, List.mem_eraseDups, h.get_ne_nil_iff]
  case count =>
    intro k n hmem
    rw [h.counts_eq] at hmem
    obtain ⟨other, -, heq⟩ := List.mem_map.mp hmem
    obtain ⟨rfl, rfl⟩ := Prod.mk.inj heq
    rfl
  case sum => exact h.sum_counts

/-- **Counts.** After any operations, an index by kind lists every kind that has statements
    once, in the order in which the kinds came first, with the number of statements that it
    answers with. The counts add up to its size. -/
theorem run_counts_groups (statement : α → Statement) (operations : List (Operation α)) :
    (run operations : ByKind statement).CountsGroups
      ((history operations).filterMap fun element => (statement element).kind) := by
  have h := (holds_run operations : (run operations : ByKind statement).Holds _).groups
  have hcounts := h.countsGroups
  -- statements without a kind have no key to count
  rwa [filterMap_key_filter_isSome] at hcounts

end Index

end EffectText
