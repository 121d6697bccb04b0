import EffectText.Condition.Standard

/-! # Registries of predicates

    A **registry** gives each kind of statement a predicate, or none. The standard
    registry has one for every kind of condition. Callers may register others: the
    predicate registered last for a kind counts.

    A condition without a kind, or of a kind without a predicate, is false. A
    statement **applies** when all its conditions are true.
-/

namespace EffectText

/-- **Predicate**: decides a condition in a snapshot. -/
abbrev Predicate (W : World) := Statement → Snapshot W → Bool

/-- **Registry**: the predicate of each kind that has one. -/
structure Registry (W : World) where
  predicate? : Kind → Option (Predicate W)

namespace Registry

variable {W : World}

/-! ## Building -/

/-- The registry without predicates. -/
def empty : Registry W := { predicate? := fun _ => none }

instance : Inhabited (Registry W) := ⟨empty⟩

/-- The registry that has the rule of every kind of condition. -/
def standard : Registry W where
  predicate?
    | .effect _ => none
    | .condition kind => some fun condition s => kind.holds condition.params s

/-- Gives a kind a predicate, in place of one that it has. -/
def register (registry : Registry W) (kind : Kind) (predicate : Predicate W) : Registry W where
  predicate? other := if other = kind then some predicate else registry.predicate? other

@[simp] theorem register_self (registry : Registry W) (kind : Kind) (predicate : Predicate W) :
    (registry.register kind predicate).predicate? kind = some predicate := by
  simp [register]

@[simp] theorem register_ne (registry : Registry W) (kind other : Kind)
    (predicate : Predicate W) (h : other ≠ kind) :
    (registry.register kind predicate).predicate? other = registry.predicate? other := by
  simp [register, h]

/-! ## Counting -/

/-- Whether a kind has a predicate. -/
def isRegistered (registry : Registry W) (kind : Kind) : Bool :=
  (registry.predicate? kind).isSome

/-- The number of kinds that have a predicate. -/
def size (registry : Registry W) : Nat := Kind.all.countP registry.isRegistered

/-- Whether no kind has a predicate. -/
def isEmpty (registry : Registry W) : Bool := !Kind.all.any registry.isRegistered

/-! ## Deciding -/

/-- **Verdict** on one condition. -/
def evaluate (registry : Registry W) (condition : Statement) (s : Snapshot W) : Bool :=
  match condition.kind with
  | none => false
  | some kind =>
    match registry.predicate? kind with
    | none => false
    | some predicate => predicate condition s

/-- The standard registry decides by the rule of the kind, and without a kind of
    condition there is no rule. -/
theorem evaluate_standard (condition : Statement) (s : Snapshot W) :
    standard.evaluate condition s =
      match condition.kind with
      | some (.condition kind) => kind.holds condition.params s
      | _ => false := by
  unfold evaluate standard
  match condition.kind with
  | none => rfl
  | some (.effect _) => rfl
  | some (.condition _) => rfl

theorem evaluate_standard_of_kind {condition : Statement} {kind : ConditionKind}
    (h : condition.kind = some (.condition kind)) (s : Snapshot W) :
    standard.evaluate condition s = kind.holds condition.params s := by
  rw [evaluate_standard, h]

theorem evaluate_standard_iff {condition : Statement} {s : Snapshot W} :
    standard.evaluate condition s = true ↔
      ∃ kind, condition.kind = some (.condition kind) ∧ kind.holds condition.params s = true := by
  rw [evaluate_standard]
  match condition.kind with
  | none => simp
  | some (.effect _) => simp
  | some (.condition _) => simp

/-- What there is to tell about deciding one condition. -/
def evaluationEvents (registry : Registry W) (condition : Statement) : List Event :=
  match condition.kind with
  | none => []
  | some kind => if registry.isRegistered kind then [] else [.noPredicate kind]

end Registry

namespace Statement

variable {W : World}

/-! ## Whether a statement applies -/

/-- **Whether a statement applies**, by the predicates of a registry. Without a
    snapshot nothing is known, and only a statement without conditions applies. -/
def appliesBy (statement : Statement) (registry : Registry W) : Option (Snapshot W) → Bool
  | none => statement.conditions.isEmpty
  | some s => statement.conditions.all fun condition => registry.evaluate condition s

/-- Whether a statement applies, by the standard registry. -/
def applies (statement : Statement) (s : Option (Snapshot W)) : Bool :=
  statement.appliesBy .standard s

/-- Whether a statement applies when only a civilization and a city are known. -/
def appliesTo (statement : Statement) (civ : Option W.Civ) (city : Option W.City) : Bool :=
  statement.applies (some (Snapshot.ofCivAndCity civ city))

/-- What there is to tell about deciding conditions in order, up to the first that
    is false. -/
def decidingEvents (registry : Registry W) (s : Snapshot W) : List Statement → List Event
  | [] => []
  | condition :: rest =>
    registry.evaluationEvents condition ++
      if registry.evaluate condition s then decidingEvents registry s rest else []

/-- **Events of deciding** whether a statement applies. -/
def appliesEvents (statement : Statement) (registry : Registry W) :
    Option (Snapshot W) → List Event
  | none => []
  | some s => decidingEvents registry s statement.conditions

end Statement

end EffectText
