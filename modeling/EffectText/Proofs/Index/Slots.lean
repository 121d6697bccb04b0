import EffectText.Proofs.Index.Grouping

/-! # Slots and buckets

    An index keeps a table from keys to slots beside its buckets, and nothing but `push`
    changes either. A push looks up the slot of its key, with the next free slot for a key
    that has none, and takes the key for new if it finds the next slot.

    * `Index.InOrder`: table and buckets fit together, told without the order in which keys
      appeared. It follows from what an index holds (`Holds.inOrder`), which is what a push
      preserves.
    * `Index.run_eq_pushAll`: all other operations are pushes, one for each element that has
      a key.
    * `Index.pushes_stay_in_order`: any pushes on the empty index.
-/

namespace EffectText.Index

variable {α κ : Type} [DecidableEq κ] [Hashable κ] {key : α → Option κ}

/-! ## Pushes -/

/-- The index after pushes, each of an element under a key. -/
def pushOnto (index : Index key) (entries : List (κ × α)) : Index key :=
  entries.foldl (fun index entry => index.push entry.1 entry.2) index

/-- The empty index after pushes. -/
def pushAll (entries : List (κ × α)) : Index key := pushOnto empty entries

theorem pushOnto_append (index : Index key) (entries others : List (κ × α)) :
    index.pushOnto (entries ++ others) = (index.pushOnto entries).pushOnto others :=
  List.foldl_append

/-- **Run** of pushes: an index holds what it held and what was pushed. -/
theorem Holds.pushOnto {index : Index key} {held : List (κ × α)} (h : index.Holds held)
    (entries : List (κ × α)) : (index.pushOnto entries).Holds (held ++ entries) := by
  induction entries generalizing index held with
  | nil =>
    rw [List.append_nil]
    exact h
  | cons entry entries ih =>
    have hpushed : (index.push entry.1 entry.2).Holds (held ++ [entry]) := h.push entry.1 entry.2
    have hrest := ih hpushed
    rw [List.append_assoc, List.singleton_append] at hrest
    exact hrest

theorem holds_pushAll (entries : List (κ × α)) : (pushAll entries : Index key).Holds entries :=
  Holds.empty.pushOnto entries

/-! ## Operations are pushes -/

theorem insert_eq_pushOnto (index : Index key) (element : α) :
    index.insert element = index.pushOnto (entriesOf key [element]) := by
  unfold insert
  cases hkey : key element with
  | none => simp [entriesOf, hkey, pushOnto]
  | some k => simp [entriesOf, hkey, pushOnto]

theorem insertMany_eq_pushOnto (index : Index key) (elements : List α) :
    index.insertMany elements = index.pushOnto (entriesOf key elements) := by
  induction elements generalizing index with
  | nil => rfl
  | cons element elements ih =>
    have hentries : entriesOf key (element :: elements) =
        entriesOf key [element] ++ entriesOf key elements :=
      entriesOf_append key [element] elements
    calc index.insertMany (element :: elements)
      _ = (index.insert element).insertMany elements := rfl
      _ = (index.insert element).pushOnto (entriesOf key elements) := ih _
      _ = index.pushOnto (entriesOf key (element :: elements)) := by
        rw [hentries, pushOnto_append, insert_eq_pushOnto]

/-- **Step**: an operation on pushed elements gives the pushes of their new history. -/
theorem apply_pushAll (elements : List α) (operation : Operation α) :
    operation.apply (pushAll (entriesOf key elements) : Index key) =
      pushAll (entriesOf key (operation.record elements)) := by
  cases operation with
  | insert element =>
    show (pushAll (entriesOf key elements) : Index key).insert element = _
    rw [insert_eq_pushOnto, pushAll, ← pushOnto_append, ← entriesOf_append]
    rfl
  | insertMany others =>
    show (pushAll (entriesOf key elements) : Index key).insertMany others = _
    rw [insertMany_eq_pushOnto, pushAll, ← pushOnto_append, ← entriesOf_append]
    rfl
  | ofList others => exact insertMany_eq_pushOnto empty others

/-- **Run**: after operations, an index is what the pushes of its history make. -/
theorem run_eq_pushAll (operations : List (Operation α)) :
    (run operations : Index key) = pushAll (entriesOf key (history operations)) := by
  unfold run history
  -- the operations may start from the pushes of any elements
  suffices h : ∀ elements : List α,
      operations.foldl Operation.apply (pushAll (entriesOf key elements) : Index key) =
        pushAll (entriesOf key (operations.foldl Operation.record elements)) from h []
  induction operations with
  | nil => exact fun _ => rfl
  | cons operation operations ih =>
    intro elements
    show operations.foldl Operation.apply (operation.apply (pushAll (entriesOf key elements))) = _
    rw [apply_pushAll]
    exact ih (operation.record elements)

/-! ## Table and buckets -/

/-- An index is **in order** for the entries that were pushed: its table and its buckets
    fit together, and fit the entries. -/
structure InOrder (index : Index key) (entries : List (κ × α)) : Prop where
  /-- Different keys have different slots. -/
  slot_injective : ∀ (k other : κ) (slot : Nat),
    index.slots[k]? = some slot → index.slots[other]? = some slot → k = other
  /-- The slots are the numbers from zero up to the number of buckets. -/
  slot_iff_lt : ∀ slot : Nat, (∃ k : κ, index.slots[k]? = some slot) ↔ slot < index.buckets.size
  /-- No bucket is empty. -/
  bucket_ne_empty : ∀ bucket ∈ index.buckets, bucket ≠ #[]
  /-- A bucket has the elements that were pushed under the key of its slot, in order, and no
      others. -/
  bucket_eq : ∀ (k : κ) (slot : Nat) (bucket : Array α),
    index.slots[k]? = some slot → index.buckets[slot]? = some bucket →
      bucket.toList = groupOf entries k
  /-- A key that is asked for has a slot whose bucket is there, or it has no slot. -/
  get_eq : ∀ k : κ,
    (∃ (slot : Nat) (bucket : Array α),
      index.slots[k]? = some slot ∧ index.buckets[slot]? = some bucket ∧
        index.get k = bucket.toList) ∨
    index.slots[k]? = none ∧ index.get k = []
  /-- A push finds the next slot for a key that was never pushed, and the slot of a bucket
      that is there for any other key. -/
  detects : ∀ k : κ,
    k ∉ entries.map Prod.fst ∧ index.slots.getD k index.buckets.size = index.buckets.size ∨
    k ∈ entries.map Prod.fst ∧ index.slots.getD k index.buckets.size < index.buckets.size

namespace Holds

variable {index : Index key} {entries : List (κ × α)}

/-- A slot below the number of buckets is the place of a key among the keys. -/
theorem exists_slot_of_lt (h : index.Holds entries) {slot : Nat}
    (hlt : slot < index.buckets.size) : ∃ k : κ, index.slots[k]? = some slot := by
  rw [h.size_buckets] at hlt
  exact ⟨(keysOf entries)[slot], (h.slot_iff _ slot).mpr (List.getElem?_eq_getElem hlt)⟩

theorem bucket_toList (h : index.Holds entries) {k : κ} {slot : Nat} {bucket : Array α}
    (hslot : index.slots[k]? = some slot) (hbucket : index.buckets[slot]? = some bucket) :
    bucket.toList = groupOf entries k := by
  have hget := h.get_eq k
  unfold get at hget
  simp only [hslot, hbucket, Option.getD_some] at hget
  exact hget

/-- What an index holds keeps its table and its buckets in order. -/
theorem inOrder (h : index.Holds entries) : index.InOrder entries := by
  constructor
  case slot_injective =>
    intro k other slot hk hother
    have hplace := (h.slot_iff k slot).mp hk
    rw [(h.slot_iff other slot).mp hother] at hplace
    exact (Option.some.inj hplace).symm
  case slot_iff_lt =>
    intro slot
    constructor
    · intro hkey
      obtain ⟨k, hk⟩ := hkey
      exact h.slot_lt hk
    · exact h.exists_slot_of_lt
  case bucket_ne_empty =>
    intro bucket hmem hempty
    obtain ⟨slot, hlt, hbucket⟩ := Array.mem_iff_getElem.mp hmem
    obtain ⟨k, hk⟩ := h.exists_slot_of_lt hlt
    have hgroup : bucket.toList = groupOf entries k :=
      h.bucket_toList hk (by rw [Array.getElem?_eq_getElem hlt, hbucket])
    -- the key of the slot was pushed, with an element
    have hpushed : k ∈ keysOf entries := List.mem_of_getElem? ((h.slot_iff k slot).mp hk)
    rw [hempty] at hgroup
    exact groupOf_ne_nil hpushed hgroup.symm
  case bucket_eq => exact fun k slot bucket hslot hbucket => h.bucket_toList hslot hbucket
  case get_eq =>
    intro k
    cases hslot : index.slots[k]? with
    | none => exact .inr ⟨rfl, by simp [get, hslot]⟩
    | some slot =>
      have hbucket := Array.getElem?_eq_getElem (h.slot_lt hslot)
      exact .inl ⟨slot, _, rfl, hbucket, by simp [get, hslot, hbucket]⟩
  case detects =>
    intro k
    rw [← mem_keysOf]
    by_cases hk : k ∈ keysOf entries
    · obtain ⟨slot, hplace⟩ := List.mem_iff_getElem?.mp hk
      have hslot : index.slots[k]? = some slot := (h.slot_iff k slot).mpr hplace
      have hfound : index.slots.getD k index.buckets.size = slot := by
        rw [Std.HashMap.getD_eq_getD_getElem?, hslot, Option.getD_some]
      exact .inr ⟨hk, hfound ▸ h.slot_lt hslot⟩
    · exact .inl ⟨hk, (h.slot_eq_next_iff k).mpr hk⟩

end Holds

/-- **Slots.** After any pushes on the empty index, whatever their keys, different keys have
    different slots; the slots are the numbers of the buckets; no bucket is empty, and it has
    the elements that were pushed under the key of its slot. So a key that is asked for is
    never looked up past the last bucket, and a push takes a key for new exactly if it was
    not pushed before. Every index that operations make is made by such pushes. -/
theorem pushes_stay_in_order (entries : List (κ × α)) (operations : List (Operation α)) :
    (pushAll entries : Index key).InOrder entries ∧
    (run operations : Index key) = pushAll (entriesOf key (history operations)) :=
  ⟨(holds_pushAll entries).inOrder, run_eq_pushAll operations⟩

end EffectText.Index
