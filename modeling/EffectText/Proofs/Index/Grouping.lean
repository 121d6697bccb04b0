import EffectText.Index
import Mathlib.Data.Finset.Card
import Mathlib.Data.List.Dedup

/-! # What an index holds

    An **entry** is an element together with the key under which it was pushed. An
    index **holds** a list of entries when its slots number the keys in the order of
    first appearance, and the bucket of each slot has the elements of its key in order
    (`Index.Holds`).

    * `Index.Holds.push`: a push adds its entry to what the index holds, for a key that
      is new and for one that has a slot.
    * `Index.run_groups_history`: after any operations, an index answers from its history,
      the elements that went into it since it was last made anew.
-/

namespace EffectText

variable {α κ : Type}

/-! ## Entries of elements -/

/-- The entries of elements: those that have a key, each under its key. -/
def entriesOf (key : α → Option κ) (elements : List α) : List (κ × α) :=
  elements.filterMap fun element => (key element).map (·, element)

theorem entriesOf_append (key : α → Option κ) (elements others : List α) :
    entriesOf key (elements ++ others) = entriesOf key elements ++ entriesOf key others :=
  List.filterMap_append

theorem map_fst_entriesOf (key : α → Option κ) (elements : List α) :
    (entriesOf key elements).map Prod.fst = elements.filterMap key := by
  unfold entriesOf
  rw [List.map_filterMap]
  congr 1
  funext element
  cases key element <;> rfl

theorem map_snd_entriesOf (key : α → Option κ) (elements : List α) :
    (entriesOf key elements).map Prod.snd =
      elements.filter fun element => (key element).isSome := by
  unfold entriesOf
  rw [List.map_filterMap, ← List.filterMap_eq_filter]
  congr 1
  funext element
  cases hkey : key element <;> simp [Option.guard, hkey]

/-- Elements without a key have no entry. -/
theorem entriesOf_filter_isSome (key : α → Option κ) (elements : List α) :
    entriesOf key (elements.filter fun element => (key element).isSome) =
      entriesOf key elements := by
  unfold entriesOf
  rw [List.filterMap_filter]
  congr 1
  funext element
  cases key element <;> rfl

/-- Elements without a key have no part in the list of the keys. -/
theorem filterMap_key_filter_isSome (key : α → Option κ) (elements : List α) :
    (elements.filter fun element => (key element).isSome).filterMap key =
      elements.filterMap key := by
  rw [← map_fst_entriesOf, entriesOf_filter_isSome, map_fst_entriesOf]

variable [DecidableEq κ]

/-! ## First appearances -/

theorem eraseDups_snoc_of_mem {keys : List κ} {k : κ} (h : k ∈ keys) :
    (keys ++ [k]).eraseDups = keys.eraseDups := by
  rw [List.eraseDups_append]
  simp [List.removeAll, h]

theorem eraseDups_snoc_of_not_mem {keys : List κ} {k : κ} (h : k ∉ keys) :
    (keys ++ [k]).eraseDups = keys.eraseDups ++ [k] := by
  rw [List.eraseDups_append]
  simp [List.removeAll, h, List.eraseDups_cons]

theorem nodup_eraseDups (keys : List κ) : keys.eraseDups.Nodup := by
  induction keys using List.reverseRecOn with
  | nil => simp
  | append_singleton keys k ih =>
    by_cases hk : k ∈ keys
    · rw [eraseDups_snoc_of_mem hk]
      exact ih
    · rw [eraseDups_snoc_of_not_mem hk, List.nodup_append_comm, List.singleton_append,
        List.nodup_cons, List.mem_eraseDups]
      exact ⟨hk, ih⟩

/-- The same keys in another order appear first in another order. -/
theorem eraseDups_perm {keys others : List κ} (h : keys.Perm others) :
    keys.eraseDups.Perm others.eraseDups := by
  rw [List.perm_ext_iff_of_nodup (nodup_eraseDups keys) (nodup_eraseDups others)]
  simp only [List.mem_eraseDups, h.mem_iff, implies_true]

/-- The keys that appear are as many as there are different keys. -/
theorem length_eraseDups (keys : List κ) : keys.eraseDups.length = keys.toFinset.card := by
  have hsame : keys.eraseDups.toFinset = keys.toFinset := by
    ext k
    simp only [List.mem_toFinset, List.mem_eraseDups]
  rw [← hsame, List.toFinset_card_of_nodup (nodup_eraseDups keys)]

/-! ## Keys and groups of entries -/

/-- The keys of entries, in the order of first appearance. -/
def keysOf (entries : List (κ × α)) : List κ := (entries.map Prod.fst).eraseDups

/-- **Group** of a key: the elements of its entries, in order. -/
def groupOf (entries : List (κ × α)) (k : κ) : List α :=
  (entries.filter fun entry => entry.1 = k).map Prod.snd

theorem nodup_keysOf (entries : List (κ × α)) : (keysOf entries).Nodup :=
  nodup_eraseDups _

theorem mem_keysOf {entries : List (κ × α)} {k : κ} :
    k ∈ keysOf entries ↔ k ∈ entries.map Prod.fst :=
  List.mem_eraseDups

theorem keysOf_snoc_of_mem {entries : List (κ × α)} {k : κ} (h : k ∈ keysOf entries)
    (element : α) : keysOf (entries ++ [(k, element)]) = keysOf entries := by
  unfold keysOf
  rw [List.map_append, List.map_singleton]
  exact eraseDups_snoc_of_mem (mem_keysOf.mp h)

theorem keysOf_snoc_of_not_mem {entries : List (κ × α)} {k : κ} (h : k ∉ keysOf entries)
    (element : α) : keysOf (entries ++ [(k, element)]) = keysOf entries ++ [k] := by
  unfold keysOf
  rw [List.map_append, List.map_singleton]
  exact eraseDups_snoc_of_not_mem fun hmem => h (mem_keysOf.mpr hmem)

theorem groupOf_snoc_self (entries : List (κ × α)) (k : κ) (element : α) :
    groupOf (entries ++ [(k, element)]) k = groupOf entries k ++ [element] := by
  simp [groupOf]

theorem groupOf_snoc_of_ne {k other : κ} (h : other ≠ k) (entries : List (κ × α))
    (element : α) : groupOf (entries ++ [(k, element)]) other = groupOf entries other := by
  simp [groupOf, h.symm]

theorem groupOf_entriesOf (key : α → Option κ) (elements : List α) (k : κ) :
    groupOf (entriesOf key elements) k = elements.filter fun element => key element = some k := by
  unfold groupOf entriesOf
  rw [List.filter_filterMap, List.map_filterMap, ← List.filterMap_eq_filter]
  congr 1
  funext element
  cases hkey : key element with
  | none => simp [Option.guard, hkey]
  | some other => by_cases heq : other = k <;> simp [Option.guard, Option.filter, hkey, heq]

/-- One more entry changes one of the groups of different keys. -/
theorem map_groupOf_snoc {keys : List κ} (hnodup : keys.Nodup) {slot : Nat} {k : κ}
    (hslot : keys[slot]? = some k) (entries : List (κ × α)) (element : α) :
    keys.map (groupOf (entries ++ [(k, element)])) =
      (keys.map (groupOf entries)).modify slot (· ++ [element]) := by
  apply List.ext_getElem?
  intro place
  rw [List.getElem?_modify, List.getElem?_map, List.getElem?_map]
  cases hplace : keys[place]? with
  | none => rfl
  | some other =>
    by_cases heq : slot = place
    · have hkey : other = k := Option.some.inj (hplace.symm.trans (heq ▸ hslot))
      simp [heq, hkey, groupOf_snoc_self]
    · have hne : other ≠ k := by
        intro hkey
        rw [hkey, ← hslot] at hplace
        have hlt := (List.getElem?_eq_some_iff.mp hslot).1
        exact heq ((List.getElem?_inj hlt hnodup).mp hplace.symm)
      simp [heq, groupOf_snoc_of_ne hne]

/-- A key that does not appear has no elements. -/
theorem groupOf_eq_nil {entries : List (κ × α)} {k : κ} (h : k ∉ keysOf entries) :
    groupOf entries k = [] := by
  rw [mem_keysOf] at h
  unfold groupOf
  rw [List.map_eq_nil_iff, List.filter_eq_nil_iff]
  intro entry hentry hk
  exact h (List.mem_map.mpr ⟨entry, hentry, of_decide_eq_true hk⟩)

/-- A key that appears has an element. -/
theorem groupOf_ne_nil {entries : List (κ × α)} {k : κ} (hk : k ∈ keysOf entries) : groupOf entries k ≠ [] := by
  obtain ⟨entry, hentry, heq⟩ := List.mem_map.mp (mem_keysOf.mp hk)
  have hmem : entry.2 ∈ groupOf entries k :=
    List.mem_map_of_mem (List.mem_filter.mpr ⟨hentry, decide_eq_true heq⟩)
  exact List.ne_nil_of_mem hmem

/-- The groups of different keys that cover the entries have every element once. -/
theorem flatMap_groupOf_perm {keys : List κ} (hnodup : keys.Nodup) (entries : List (κ × α))
    (hcover : ∀ entry ∈ entries, entry.1 ∈ keys) :
    (keys.flatMap (groupOf entries)).Perm (entries.map Prod.snd) := by
  induction keys generalizing entries with
  | nil =>
    have hempty : entries = [] := List.eq_nil_iff_forall_not_mem.mpr fun entry hentry =>
      List.not_mem_nil (hcover entry hentry)
    rw [hempty]
    exact .nil
  | cons k keys ih =>
    obtain ⟨hk, hnodup⟩ := List.nodup_cons.mp hnodup
    let others := entries.filter fun entry => ¬ entry.1 = k
    -- the entries of `k` are in no other group
    have hgroups : keys.flatMap (groupOf entries) = keys.flatMap (groupOf others) := by
      apply List.flatMap_congr
      intro other hother
      have hne : other ≠ k := ne_of_mem_of_not_mem hother hk
      unfold groupOf
      rw [List.filter_filter]
      congr 2
      funext entry
      by_cases hentry : entry.1 = other <;> simp [hentry, hne]
    have hcover' : ∀ entry ∈ others, entry.1 ∈ keys := by
      intro entry hentry
      obtain ⟨hmem, hne⟩ := List.mem_filter.mp hentry
      exact (List.mem_cons.mp (hcover entry hmem)).resolve_left (of_decide_eq_true hne)
    calc
      List.Perm ((k :: keys).flatMap (groupOf entries))
          (groupOf entries k ++ others.map Prod.snd) := by
        rw [List.flatMap_cons, hgroups]
        exact (ih hnodup others hcover').append_left _
      _ = ((entries.filter fun entry => entry.1 = k) ++ others).map Prod.snd :=
        List.map_append.symm
      List.Perm _ (entries.map Prod.snd) := by
        have := (List.filter_append_perm (fun entry => entry.1 = k) entries).map Prod.snd
        simpa [others] using this

/-- All groups together have every element once. -/
theorem flatMap_keysOf_perm (entries : List (κ × α)) :
    ((keysOf entries).flatMap (groupOf entries)).Perm (entries.map Prod.snd) :=
  flatMap_groupOf_perm (nodup_keysOf entries) entries fun _ hentry =>
    mem_keysOf.mpr (List.mem_map_of_mem hentry)

/-! ## What an index holds -/

namespace Index

variable [Hashable κ] {key : α → Option κ}

/-- An index **holds** entries. -/
structure Holds (index : Index key) (entries : List (κ × α)) : Prop where
  /-- The slots number the keys in the order of first appearance. -/
  slot_iff : ∀ (k : κ) (slot : Nat),
    index.slots[k]? = some slot ↔ (keysOf entries)[slot]? = some k
  /-- The bucket of each slot is the group of its key. -/
  buckets_eq : index.buckets.toList.map Array.toList = (keysOf entries).map (groupOf entries)

namespace Holds

variable {index : Index key} {entries : List (κ × α)}

theorem size_buckets (h : index.Holds entries) :
    index.buckets.size = (keysOf entries).length := by
  have := congrArg List.length h.buckets_eq
  simpa using this

/-- A key without a slot does not appear. -/
theorem slot_eq_none_iff (h : index.Holds entries) (k : κ) :
    index.slots[k]? = none ↔ k ∉ keysOf entries := by
  rw [Option.eq_none_iff_forall_ne_some, List.mem_iff_getElem?]
  simp only [ne_eq, h.slot_iff, not_exists]

theorem slot_lt (h : index.Holds entries) {k : κ} {slot : Nat}
    (hslot : index.slots[k]? = some slot) : slot < index.buckets.size := by
  rw [h.size_buckets]
  exact (List.getElem?_eq_some_iff.mp ((h.slot_iff k slot).mp hslot)).1

/-- **Detection** of new keys: the slot found for a key is the next one exactly if the
    key has not appeared. -/
theorem slot_eq_next_iff (h : index.Holds entries) (k : κ) :
    index.slots.getD k index.buckets.size = index.buckets.size ↔ k ∉ keysOf entries := by
  rw [Std.HashMap.getD_eq_getD_getElem?, ← h.slot_eq_none_iff]
  cases hslot : index.slots[k]? with
  | none => simp
  | some slot =>
    have hlt := h.slot_lt hslot
    rw [Option.getD_some]
    constructor
    · intro heq
      omega
    · intro hnone
      contradiction

/-! ### Pushing -/

theorem empty : (Index.empty : Index key).Holds [] where
  slot_iff k slot := by simp [Index.empty, keysOf]
  buckets_eq := by simp [Index.empty, keysOf]

/-- A new key gets the next slot, with a bucket of one element. -/
theorem push_of_not_mem (h : index.Holds entries) {k : κ} (hk : k ∉ keysOf entries)
    (element : α) : (index.push k element).Holds (entries ++ [(k, element)]) := by
  have hnext := (h.slot_eq_next_iff k).mpr hk
  have hkeys := keysOf_snoc_of_not_mem hk element
  unfold push
  rw [if_pos hnext, hnext]
  constructor
  case slot_iff =>
    intro other slot
    show (index.slots.insert k index.buckets.size)[other]? = some slot ↔ _
    rw [hkeys, Std.HashMap.getElem?_insert, h.size_buckets]
    by_cases heq : k = other
    · subst heq
      -- the key is in no earlier slot, so the next one is its only one
      have hold : ¬ (keysOf entries)[slot]? = some k := fun hslot =>
        hk (List.mem_of_getElem? hslot)
      rw [if_pos (beq_self_eq_true k)]
      grind
    · rw [if_neg (by simpa using heq), h.slot_iff]
      grind
  case buckets_eq =>
    have hold : (keysOf entries).map (groupOf (entries ++ [(k, element)])) =
        (keysOf entries).map (groupOf entries) :=
      List.map_congr_left fun other hother =>
        groupOf_snoc_of_ne (ne_of_mem_of_not_mem hother hk) entries element
    show (index.buckets.push #[element]).toList.map Array.toList = _
    rw [hkeys, List.map_append, hold, ← h.buckets_eq, List.map_singleton, groupOf_snoc_self,
      groupOf_eq_nil hk]
    simp

/-- A key that has appeared keeps its slot, and the element goes last into the bucket. -/
theorem push_of_mem (h : index.Holds entries) {k : κ} (hk : k ∈ keysOf entries)
    (element : α) : (index.push k element).Holds (entries ++ [(k, element)]) := by
  have hnext : ¬ index.slots.getD k index.buckets.size = index.buckets.size := fun heq =>
    (h.slot_eq_next_iff k).mp heq hk
  have hkeys := keysOf_snoc_of_mem hk element
  unfold push
  rw [if_neg hnext]
  -- the slot that is found is the place of the key among the keys
  obtain ⟨slot, hslot⟩ := List.mem_iff_getElem?.mp hk
  have hfound : index.slots.getD k index.buckets.size = slot := by
    rw [Std.HashMap.getD_eq_getD_getElem?, (h.slot_iff k slot).mpr hslot, Option.getD_some]
  rw [hfound]
  constructor
  case slot_iff =>
    intro other slot
    rw [hkeys]
    exact h.slot_iff other slot
  case buckets_eq =>
    have hbuckets : (index.buckets.modify slot (·.push element)).toList.map Array.toList =
        (index.buckets.toList.map Array.toList).modify slot (· ++ [element]) := by
      rw [Array.toList_modify]
      apply List.ext_getElem?
      intro other
      simp only [List.getElem?_map, List.getElem?_modify]
      by_cases heq : slot = other <;> simp [heq, Function.comp_def]
    show (index.buckets.modify slot (·.push element)).toList.map Array.toList = _
    rw [hkeys, hbuckets, h.buckets_eq, map_groupOf_snoc (nodup_keysOf entries) hslot]

/-- **Step**: a push adds its entry to what an index holds. -/
theorem push (h : index.Holds entries) (k : κ) (element : α) :
    (index.push k element).Holds (entries ++ [(k, element)]) := by
  by_cases hk : k ∈ keysOf entries
  · exact h.push_of_mem hk element
  · exact h.push_of_not_mem hk element

/-! ### Asking -/

theorem get_eq (h : index.Holds entries) (k : κ) : index.get k = groupOf entries k := by
  unfold get
  cases hslot : index.slots[k]? with
  | none => exact (groupOf_eq_nil ((h.slot_eq_none_iff k).mp hslot)).symm
  | some slot =>
    have hkey : (keysOf entries)[slot]? = some k := (h.slot_iff k slot).mp hslot
    have hbucket := congrArg (·[slot]?) h.buckets_eq
    simp only [List.getElem?_map, hkey, Option.map_some, Array.getElem?_toList] at hbucket
    obtain ⟨bucket, hfound, heq⟩ := Option.map_eq_some_iff.mp hbucket
    show (index.buckets[slot]?.getD #[]).toList = groupOf entries k
    rw [hfound, Option.getD_some, heq]

theorem toList_eq (h : index.Holds entries) :
    index.toList = (keysOf entries).flatMap (groupOf entries) := by
  unfold toList
  rw [List.flatMap_def, h.buckets_eq, ← List.flatMap_def]

theorem toList_perm (h : index.Holds entries) :
    index.toList.Perm (entries.map Prod.snd) := by
  rw [h.toList_eq]
  exact flatMap_keysOf_perm entries

theorem groupCount_eq (h : index.Holds entries) :
    index.groupCount = (entries.map Prod.fst).toFinset.card := by
  unfold groupCount
  rw [h.size_buckets, keysOf, length_eraseDups]

theorem isEmpty_iff (h : index.Holds entries) : index.isEmpty = true ↔ entries = [] := by
  unfold isEmpty
  rw [Array.isEmpty_iff_size_eq_zero, h.size_buckets, List.length_eq_zero_iff,
    List.eq_nil_iff_forall_not_mem]
  simp only [mem_keysOf]
  rw [← List.eq_nil_iff_forall_not_mem, List.map_eq_nil_iff]

end Holds

/-! ### Inserting -/

namespace Holds

variable {index : Index key} {elements : List α}

theorem insert (h : index.Holds (entriesOf key elements)) (element : α) :
    (index.insert element).Holds (entriesOf key (elements ++ [element])) := by
  rw [entriesOf_append]
  unfold Index.insert
  cases hkey : key element with
  | none => simpa [entriesOf, hkey] using h
  | some k => simpa [entriesOf, hkey] using h.push k element

theorem insertMany (h : index.Holds (entriesOf key elements)) (others : List α) :
    (index.insertMany others).Holds (entriesOf key (elements ++ others)) := by
  induction others generalizing index elements with
  | nil =>
    rw [List.append_nil]
    exact h
  | cons element others ih =>
    have := ih (h.insert element)
    rwa [List.append_assoc, List.singleton_append] at this

/-- A key has the elements with this key, in order. -/
theorem get_eq_filter (h : index.Holds (entriesOf key elements)) (k : κ) :
    index.get k = elements.filter fun element => key element = some k := by
  rw [h.get_eq, groupOf_entriesOf]

/-- An index made of elements holds their entries. -/
theorem ofList (elements : List α) :
    (Index.ofList elements : Index key).Holds (entriesOf key elements) := by
  have hempty : (Index.empty : Index key).Holds (entriesOf key []) := Holds.empty
  exact hempty.insertMany elements

end Holds

/-! ## Histories -/

/-- **Operation** on an index. -/
inductive Operation (α : Type) where
  /-- Adds an element. -/
  | insert (element : α)
  /-- Adds elements one after the other. -/
  | insertMany (elements : List α)
  /-- Makes a new index of elements in place of the old one. -/
  | ofList (elements : List α)

/-- What an operation makes of an index. -/
def Operation.apply (index : Index key) : Operation α → Index key
  | .insert element => index.insert element
  | .insertMany elements => index.insertMany elements
  | .ofList elements => Index.ofList elements

/-- The index after operations on the empty one. -/
def run (operations : List (Operation α)) : Index key := operations.foldl Operation.apply empty

/-- What an operation makes of a history. -/
def Operation.record (history : List α) : Operation α → List α
  | .insert element => history ++ [element]
  | .insertMany elements => history ++ elements
  | .ofList elements => elements

/-- **History**: the elements of operations in order, since the last one that made a new
    index. -/
def history (operations : List (Operation α)) : List α := operations.foldl Operation.record []

/-- **Step**: an operation keeps an index in line with its history. -/
theorem Holds.apply {index : Index key} {elements : List α}
    (h : index.Holds (entriesOf key elements)) (operation : Operation α) :
    (operation.apply index).Holds (entriesOf key (operation.record elements)) := by
  cases operation with
  | insert element => exact h.insert element
  | insertMany others => exact h.insertMany others
  | ofList others => exact Holds.ofList others

/-- **Run**: after operations, an index holds the entries of its history. -/
theorem holds_run (operations : List (Operation α)) :
    (run operations : Index key).Holds (entriesOf key (history operations)) := by
  unfold run history
  -- the operations may start from any index that is in line with a history
  suffices h : ∀ (index : Index key) (elements : List α),
      index.Holds (entriesOf key elements) →
        (operations.foldl Operation.apply index).Holds
          (entriesOf key (operations.foldl Operation.record elements)) from
    h empty [] Holds.empty
  induction operations with
  | nil => exact fun _ _ h => h
  | cons operation operations ih => exact fun _ _ h => ih _ _ (h.apply operation)

/-- An index **groups** elements that have keys: it answers from the list of them. -/
structure Groups (index : Index key) (elements : List α) : Prop where
  /-- The elements of a key, in order. -/
  get : ∀ k : κ, index.get k = elements.filter fun element => key element = some k
  /-- All elements, group by group, in the order in which the keys appear first. -/
  toList : index.toList = (elements.filterMap key).eraseDups.flatMap index.get
  /-- Nothing is lost or repeated. -/
  perm : index.toList.Perm elements
  size : index.size = elements.length
  /-- There is a group for each key that appears. -/
  groupCount : index.groupCount = (elements.filterMap key).toFinset.card
  isEmpty : index.isEmpty = true ↔ elements = []

/-- An index that holds the entries of elements groups those that have a key. -/
theorem Holds.groups {index : Index key} {elements : List α}
    (h : index.Holds (entriesOf key elements)) :
    index.Groups (elements.filter fun element => (key element).isSome) := by
  have hperm := h.toList_perm
  rw [map_snd_entriesOf] at hperm
  -- elements without a key have no entry, so they can be left out of the list
  rw [← entriesOf_filter_isSome] at h
  constructor
  case get => exact h.get_eq_filter
  case toList =>
    rw [h.toList_eq, keysOf, map_fst_entriesOf, List.flatMap_congr fun k _ => (h.get_eq k).symm]
  case perm => exact hperm
  case size => exact hperm.length_eq
  case groupCount => rw [h.groupCount_eq, map_fst_entriesOf]
  case isEmpty =>
    rw [h.isEmpty_iff, ← List.map_eq_nil_iff (f := Prod.snd), map_snd_entriesOf,
      List.filter_filter]
    simp only [Bool.and_self]

theorem groups_ofList (elements : List α) :
    (ofList elements : Index key).Groups
      (elements.filter fun element => (key element).isSome) :=
  (Holds.ofList elements).groups

end Index

/-! ## Indexes of statements -/

theorem filter_patternKey (statement : α → Statement) (elements : List α) :
    (elements.filter fun element => (patternKey statement element).isSome) = elements :=
  List.filter_eq_self.mpr fun _ _ => rfl

/-- **Grouping.** After any operations, an index by pattern answers from its history, and
    an index by kind from the elements of its history whose statements have a kind. -/
theorem Index.run_groups_history (statement : α → Statement) (operations : List (Operation α)) :
    (run operations : ByPattern statement).Groups (history operations) ∧
    (run operations : ByKind statement).Groups
      ((history operations).filter fun element => (statement element).kind.isSome) := by
  constructor
  · rw [← filter_patternKey statement (history operations)]
    exact (holds_run operations).groups
  · exact (holds_run operations).groups

end EffectText
