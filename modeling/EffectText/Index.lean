import EffectText.Statement
import Std.Data.HashMap

/-! # Indexes

    An **index** groups elements by a key that is computed from each. It keeps the
    elements of a group in the order in which they came, and the groups in the order
    in which their first elements came. Elements without a key are not kept.

    Groups live in numbered **slots**. A key gets the next slot with its first
    element.

    Statements are indexed in two ways: `ByPattern` keeps all of them, and `ByKind`
    only those that have a kind.
-/

namespace EffectText

/-! ## Tallies -/

/-- One more of `key` in a list of counts, in which a new key goes last. -/
def countOne [DecidableEq κ] (key : κ) : List (κ × Nat) → List (κ × Nat)
  | [] => [(key, 1)]
  | (other, count) :: rest =>
    if other = key then (other, count + 1) :: rest else (other, count) :: countOne key rest

/-- **Tally**: how often each key occurs, in the order of first occurrence. -/
def tally [DecidableEq κ] (keys : List κ) : List (κ × Nat) :=
  keys.foldl (fun counts key => countOne key counts) []

/-! ## Indexes -/

/-- **Index**: elements grouped by the keys that `key` gives them. -/
structure Index {α κ : Type} [BEq κ] [Hashable κ] (key : α → Option κ) where
  /-- The slot of each key that has elements. -/
  slots : Std.HashMap κ Nat
  /-- The elements of each slot. -/
  buckets : Array (Array α)

namespace Index

variable {α κ : Type} [BEq κ] [Hashable κ] {key : α → Option κ}

/-- The index without elements. -/
def empty : Index key := { slots := {}, buckets := #[] }

instance : Inhabited (Index key) := ⟨empty⟩

/-- Adds an element under the key `k`. -/
def push (index : Index key) (k : κ) (element : α) : Index key :=
  let next := index.buckets.size
  let slot := index.slots.getD k next
  if slot = next then
    { slots := index.slots.insert k slot, buckets := index.buckets.push #[element] }
  else { index with buckets := index.buckets.modify slot (·.push element) }

/-- Adds an element, if it has a key. -/
def insert (index : Index key) (element : α) : Index key :=
  match key element with
  | none => index
  | some k => index.push k element

/-- Adds elements one after the other. -/
def insertMany (index : Index key) (elements : List α) : Index key :=
  elements.foldl insert index

/-- The index of a list of elements. -/
def ofList (elements : List α) : Index key := empty.insertMany elements

/-- The elements of a key, in the order in which they came. -/
def get (index : Index key) (k : κ) : List α :=
  match index.slots[k]? with
  | none => []
  | some slot => (index.buckets[slot]?.getD #[]).toList

/-- All elements, group by group. -/
def toList (index : Index key) : List α := index.buckets.toList.flatMap Array.toList

/-- The number of elements. -/
def size (index : Index key) : Nat := index.toList.length

/-- The number of groups. -/
def groupCount (index : Index key) : Nat := index.buckets.size

/-- Whether there are no elements. -/
def isEmpty (index : Index key) : Bool := index.buckets.isEmpty

/-- How many elements each key has, in the order of the groups. -/
def counts [DecidableEq κ] (index : Index key) : List (κ × Nat) :=
  tally (index.toList.filterMap key)

end Index

/-! ## Indexes of statements -/

/-- The pattern of something that carries a statement. -/
def patternKey (statement : α → Statement) (element : α) : Option String :=
  some (statement element).pattern

/-- The kind of something that carries a statement. -/
def kindKey (statement : α → Statement) (element : α) : Option Kind :=
  (statement element).kind

/-- An index by pattern of elements that carry statements. -/
abbrev ByPattern {α : Type} (statement : α → Statement) := Index (patternKey statement)

/-- An index by kind of elements that carry statements. Those without a kind are not
    kept. -/
abbrev ByKind {α : Type} (statement : α → Statement) := Index (kindKey statement)

/-- The elements whose pattern is the pattern of a kind. -/
def ByPattern.ofKind {α : Type} {statement : α → Statement} (index : ByPattern statement)
    (kind : Kind) : List α :=
  index.get kind.pattern

end EffectText
