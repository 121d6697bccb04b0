import EffectText.Proofs.Statement.Verdict
import Mathlib.Data.Finset.Card
import Mathlib.Data.List.Induction

/-! # Registries after registrations

    A registry is made by **registrations**, one after the other, from the empty registry
    or from the standard one. The standard registry is itself what the registrations of its
    own rules make of the empty one (`Registry.registerAll_builtIn`).

    * After any registrations, a registry answers as a **table** of them: the predicate that
      was registered last for a kind decides (`Registry.Holds.tables`).
    * A verdict on a statement depends on the kinds of its conditions only, and no kind of
      effect is among these (`Registry.appliesBy_registerAll_filter`).
    * `Registry.registrations_stay_apart`: both together.
-/

namespace EffectText

variable {W : World}

/-- A condition of a parsed statement that has a kind is of a kind of condition. -/
theorem Statement.IsParsed.half_of_mem_conditions {statement condition : Statement}
    (h : statement.IsParsed) (hmem : condition ∈ statement.conditions) {kind : Kind}
    (hkind : condition.kind = some kind) : kind.half = .condition := by
  rw [h.conditions_eq] at hmem
  obtain ⟨text, -, rfl⟩ := List.mem_map.mp hmem
  exact (Statement.kind_parse_eq_some_iff.mp hkind).1

/-- **Registration**: a kind, and the predicate that it is given. -/
structure Registration (W : World) where
  kind : Kind
  predicate : Predicate W

namespace Registry

/-! ## Tables of registrations -/

/-- The registry after registrations, made one after the other. -/
def registerAll (registry : Registry W) (registrations : List (Registration W)) : Registry W :=
  registrations.foldl (fun table entry => table.register entry.kind entry.predicate) registry

/-- The predicate that was registered **last** for a kind. -/
def latest? (registrations : List (Registration W)) (kind : Kind) : Option (Predicate W) :=
  (registrations.reverse.find? (·.kind = kind)).map (·.predicate)

/-- The registrations of the rules of all kinds of condition. -/
def builtIn : List (Registration W) :=
  ConditionKind.all.map fun kind =>
    { kind := .condition kind, predicate := fun condition s => kind.holds condition.params s }

theorem registerAll_append (registry : Registry W) (first second : List (Registration W)) :
    registry.registerAll (first ++ second) = (registry.registerAll first).registerAll second := by
  unfold registerAll
  rw [List.foldl_append]

theorem latest?_snoc (registrations : List (Registration W)) (entry : Registration W)
    (kind : Kind) :
    latest? (registrations ++ [entry]) kind =
      if entry.kind = kind then some entry.predicate else latest? registrations kind := by
  unfold latest?
  rw [List.reverse_append, List.reverse_singleton, List.singleton_append, List.find?_cons]
  by_cases hkind : entry.kind = kind
  · simp [hkind]
  · simp [hkind]

/-- What was registered last for a kind has no later registration for the kind behind it. -/
theorem latest?_eq_some_iff {registrations : List (Registration W)} {kind : Kind}
    {predicate : Predicate W} :
    latest? registrations kind = some predicate ↔
      ∃ before after, registrations = before ++ ⟨kind, predicate⟩ :: after ∧
        ∀ later ∈ after, later.kind ≠ kind := by
  unfold latest?
  rw [Option.map_eq_some_iff]
  constructor
  · rintro ⟨entry, hfind, rfl⟩
    obtain ⟨hkind, after, before, hsplit, hlater⟩ := List.find?_eq_some_iff_append.mp hfind
    have hkind : entry.kind = kind := of_decide_eq_true hkind
    subst hkind
    -- the search goes from the end, so what it passes over comes later
    refine ⟨before.reverse, after.reverse, ?_, ?_⟩
    · rw [← List.reverse_reverse registrations, hsplit]
      simp
    · intro later hmem
      simpa using hlater later (List.mem_reverse.mp hmem)
  · rintro ⟨before, after, rfl, hlater⟩
    refine ⟨⟨kind, predicate⟩, List.find?_eq_some_iff_append.mpr ⟨by simp, ?_⟩, rfl⟩
    refine ⟨after.reverse, before.reverse, by simp, ?_⟩
    intro later hmem
    simpa using hlater later (List.mem_reverse.mp hmem)

theorem latest?_eq_none_iff {registrations : List (Registration W)} {kind : Kind} :
    latest? registrations kind = none ↔ ∀ entry ∈ registrations, entry.kind ≠ kind := by
  unfold latest?
  rw [Option.map_eq_none_iff, List.find?_eq_none]
  simp

/-! ## What a registry holds -/

/-- A registry **holds** registrations if each kind has the predicate that was registered
    last for it. -/
def Holds (registry : Registry W) (registrations : List (Registration W)) : Prop :=
  ∀ kind, registry.predicate? kind = latest? registrations kind

theorem holds_empty : (empty : Registry W).Holds [] := fun _ => rfl

namespace Holds

variable {registry : Registry W} {registrations : List (Registration W)}

/-- **Step**: a registration replaces what its kind had, and nothing else. -/
theorem register (h : registry.Holds registrations) (entry : Registration W) :
    (registry.register entry.kind entry.predicate).Holds (registrations ++ [entry]) := by
  intro kind
  rw [latest?_snoc]
  by_cases hkind : entry.kind = kind
  · subst hkind
    rw [if_pos rfl, register_self]
  · rw [if_neg hkind, register_ne _ _ _ _ (Ne.symm hkind), h kind]

/-- **Run**: after registrations, a registry holds them behind those that it held. -/
theorem registerAll (h : registry.Holds registrations) (others : List (Registration W)) :
    (registry.registerAll others).Holds (registrations ++ others) := by
  induction others using List.reverseRecOn with
  | nil =>
    rw [List.append_nil]
    exact h
  | append_singleton others entry ih =>
    rw [registerAll_append, ← List.append_assoc]
    exact ih.register entry

theorem eq_of_holds {other : Registry W} (h : registry.Holds registrations)
    (hother : other.Holds registrations) : registry = other := by
  obtain ⟨predicate?⟩ := registry
  obtain ⟨others?⟩ := other
  congr 1
  funext kind
  exact (h kind).trans (hother kind).symm

/-! ### Asking -/

theorem isRegistered_iff (h : registry.Holds registrations) (kind : Kind) :
    registry.isRegistered kind = true ↔ kind ∈ registrations.map (·.kind) := by
  have hnone : registry.predicate? kind = none ↔ kind ∉ registrations.map (·.kind) := by
    rw [h kind, latest?_eq_none_iff, List.mem_map, not_exists]
    simp only [not_and]
  unfold isRegistered
  rw [← Option.ne_none_iff_isSome, ne_eq, hnone, not_not]

/-- The size is the number of different kinds that were registered. -/
theorem size_eq (h : registry.Holds registrations) :
    registry.size = (registrations.map (·.kind)).toFinset.card := by
  have hfilter : (Kind.all.filter registry.isRegistered).toFinset =
      (registrations.map (·.kind)).toFinset := by
    ext kind
    rw [List.mem_toFinset, List.mem_toFinset, List.mem_filter, h.isRegistered_iff]
    exact and_iff_right (Kind.mem_all kind)
  unfold size
  rw [List.countP_eq_length_filter, ← hfilter,
    List.toFinset_card_of_nodup (Kind.nodup_all.filter _)]

theorem evaluate_of_latest {condition : Statement} {kind : Kind} {predicate : Predicate W}
    (h : registry.Holds registrations) (hkind : condition.kind = some kind)
    (hlatest : latest? registrations kind = some predicate) (s : Snapshot W) :
    registry.evaluate condition s = predicate condition s := by
  unfold evaluate
  rw [hkind]
  dsimp only
  rw [h kind, hlatest]

end Holds

/-- A registry is empty exactly if its size is zero. -/
theorem isEmpty_iff_size (registry : Registry W) :
    registry.isEmpty = true ↔ registry.size = 0 := by
  unfold isEmpty size
  rw [Bool.not_eq_true', List.any_eq_false, List.countP_eq_zero]

/-- **Built in**: the standard registry holds the registrations of its rules. -/
theorem holds_standard : (standard : Registry W).Holds builtIn := by
  have hnodup : ConditionKind.all.Nodup := by decide
  intro kind
  cases kind with
  | effect kind =>
    -- every rule is registered for a kind of condition
    refine (latest?_eq_none_iff.mpr ?_).symm
    intro entry hmem
    obtain ⟨other, -, rfl⟩ := List.mem_map.mp hmem
    exact Kind.noConfusion
  | condition kind =>
    have hmem : kind ∈ ConditionKind.all := by cases kind <;> decide
    obtain ⟨before, after, hsplit⟩ := List.append_of_mem hmem
    refine (latest?_eq_some_iff.mpr ⟨_, _, by rw [builtIn, hsplit, List.map_append]; rfl, ?_⟩).symm
    intro later hlater
    obtain ⟨other, hother, rfl⟩ := List.mem_map.mp hlater
    rw [hsplit] at hnodup
    have hnew : kind ∉ after := (List.nodup_cons.mp (List.nodup_append.mp hnodup).2.1).1
    rintro ⟨⟩
    exact hnew hother

/-- The standard registry is made by the registrations of its rules. -/
theorem registerAll_builtIn : (empty : Registry W).registerAll builtIn = standard :=
  (holds_empty.registerAll builtIn).eq_of_holds holds_standard

/-! ## Last registration decides -/

/-- **Table**: a registry answers from the registrations that made it, in their order. -/
structure Tables (registry : Registry W) (registrations : List (Registration W)) : Prop where
  /-- A condition is decided by the predicate that was registered last for its kind. -/
  evaluate_last : ∀ before after kind predicate,
    registrations = before ++ ⟨kind, predicate⟩ :: after →
    (∀ later ∈ after, later.kind ≠ kind) →
    ∀ condition s, condition.kind = some kind →
      registry.evaluate condition s = predicate condition s
  /-- A condition without a kind, or whose kind was never registered, is false. -/
  evaluate_unregistered : ∀ condition s,
    (∀ entry ∈ registrations, condition.kind ≠ some entry.kind) →
    registry.evaluate condition s = false
  /-- The size is the number of different kinds. -/
  size_eq : registry.size = (registrations.map (·.kind)).toFinset.card
  isEmpty_iff : registry.isEmpty = true ↔ registry.size = 0

theorem Holds.tables {registry : Registry W} {registrations : List (Registration W)}
    (h : registry.Holds registrations) : registry.Tables registrations := by
  constructor
  case evaluate_last =>
    intro before after kind predicate hsplit hlater condition s hkind
    exact h.evaluate_of_latest hkind (latest?_eq_some_iff.mpr ⟨before, after, hsplit, hlater⟩) s
  case evaluate_unregistered =>
    intro condition s hother
    unfold evaluate
    cases hkind : condition.kind with
    | none => rfl
    | some kind =>
      have hnone : latest? registrations kind = none := by
        rw [latest?_eq_none_iff]
        rintro entry hmem rfl
        exact hother entry hmem hkind
      dsimp only
      rw [h kind, hnone]
  case size_eq => exact h.size_eq
  case isEmpty_iff => exact registry.isEmpty_iff_size

/-! ## Verdicts on statements -/

/-- A verdict depends on the predicates of the kinds of the conditions only. -/
theorem appliesBy_congr {registry other : Registry W} {statement : Statement}
    (h : ∀ condition ∈ statement.conditions, ∀ kind, condition.kind = some kind →
      registry.predicate? kind = other.predicate? kind) (s : Option (Snapshot W)) :
    statement.appliesBy registry s = statement.appliesBy other s := by
  cases s with
  | none => rfl
  | some s =>
    have hevaluate : ∀ condition ∈ statement.conditions,
        registry.evaluate condition s = other.evaluate condition s := by
      intro condition hmem
      unfold evaluate
      cases hkind : condition.kind with
      | none => rfl
      | some kind =>
        dsimp only
        rw [h condition hmem kind hkind]
    unfold Statement.appliesBy
    rw [Bool.eq_iff_iff, List.all_eq_true, List.all_eq_true]
    exact forall₂_congr fun condition hmem => by rw [hevaluate condition hmem]

/-- **Frame**: a registration leaves the verdict on a statement alone if no condition of the
    statement is of its kind. -/
theorem appliesBy_register {statement : Statement} {kind : Kind}
    (h : ∀ condition ∈ statement.conditions, condition.kind ≠ some kind) (registry : Registry W)
    (predicate : Predicate W) (s : Option (Snapshot W)) :
    statement.appliesBy (registry.register kind predicate) s = statement.appliesBy registry s := by
  apply appliesBy_congr
  rintro condition hmem other hother
  apply register_ne
  rintro rfl
  exact h condition hmem hother

/-- A kind has the same predicate when registrations of other kinds are left out, wherever
    they stand. -/
theorem predicate?_registerAll_filter (p : Kind → Bool) {kind : Kind} (hkind : p kind = true)
    (registry : Registry W) (registrations : List (Registration W)) :
    (registry.registerAll (registrations.filter fun entry => p entry.kind)).predicate? kind =
      (registry.registerAll registrations).predicate? kind := by
  induction registrations using List.reverseRecOn with
  | nil => rfl
  | append_singleton registrations entry ih =>
    rw [List.filter_append, registerAll_append, registerAll_append]
    by_cases hp : p entry.kind = true
    · have hkept : [entry].filter (fun entry => p entry.kind) = [entry] := by simp [hp]
      rw [hkept]
      show (register _ _ _).predicate? kind = (register _ _ _).predicate? kind
      by_cases heq : kind = entry.kind
      · rw [heq, register_self, register_self]
      · rw [register_ne _ _ _ _ heq, register_ne _ _ _ _ heq, ih]
    · -- what is left out was registered for another kind
      have hdropped : [entry].filter (fun entry => p entry.kind) = [] := by simp [hp]
      have hne : kind ≠ entry.kind := by
        rintro rfl
        exact hp hkind
      rw [hdropped]
      show _ = (register _ _ _).predicate? kind
      rw [register_ne _ _ _ _ hne]
      exact ih

/-- **Run**: whatever is registered for kinds of effect, in whatever places of a run, leaves
    the verdicts on parsed statements alone. -/
theorem appliesBy_registerAll_filter {statement : Statement} (h : statement.IsParsed)
    (registry : Registry W) (registrations : List (Registration W)) (s : Option (Snapshot W)) :
    statement.appliesBy (registry.registerAll registrations) s =
      statement.appliesBy
        (registry.registerAll (registrations.filter fun entry => entry.kind.half = .condition))
        s := by
  apply appliesBy_congr
  intro condition hmem kind hkind
  have hhalf : kind.half = .condition := h.half_of_mem_conditions hmem hkind
  exact (predicate?_registerAll_filter (·.half = .condition) (decide_eq_true hhalf) registry
    registrations).symm

/-- **Registrations stay apart.** After any registrations on the empty registry, or on the
    standard one, which counts as its own rules registered first, the last predicate of its
    kind decides a condition, and the size is the number of different kinds. A registration
    changes no verdict on a statement without a condition of its kind. Parsed conditions
    are of no kind of effect, so registrations for effects can be left out anywhere. -/
theorem registrations_stay_apart (registrations : List (Registration W)) :
    ((empty : Registry W).registerAll registrations).Tables registrations ∧
    ((standard : Registry W).registerAll registrations).Tables (builtIn ++ registrations) ∧
    (∀ (registry : Registry W) (kind : Kind) (predicate : Predicate W) (statement : Statement),
      (∀ condition ∈ statement.conditions, condition.kind ≠ some kind) →
      ∀ s : Option (Snapshot W),
        statement.appliesBy (registry.register kind predicate) s =
          statement.appliesBy registry s) ∧
    ∀ (registry : Registry W) (statement : Statement), statement.IsParsed →
      ∀ s : Option (Snapshot W),
        statement.appliesBy (registry.registerAll registrations) s =
          statement.appliesBy (registry.registerAll
            (registrations.filter fun entry => entry.kind.half = .condition)) s := by
  refine ⟨?empty, ?standard, ?frame, ?effects⟩
  case empty => exact (holds_empty.registerAll registrations).tables
  case standard =>
    rw [← registerAll_builtIn, ← registerAll_append]
    exact (holds_empty.registerAll _).tables
  case frame =>
    intro registry kind predicate statement hother s
    exact appliesBy_register hother registry predicate s
  case effects =>
    intro registry statement hparsed s
    exact appliesBy_registerAll_filter hparsed registry registrations s

/-- A rule that is replaced twice, and a registration for an effect between the two. -/
theorem registrations_stay_apart_replaced :
    let never : Predicate Plain.world := fun _ _ => false
    let always : Predicate Plain.world := fun _ _ => true
    let replacements : List (Registration Plain.world) :=
      [⟨.condition .notAtWar, never⟩, ⟨.effect .yields, never⟩, ⟨.condition .notAtWar, always⟩]
    let registry : Registry Plain.world := Registry.standard.registerAll replacements
    let statement := Statement.effect "[+1 Gold] <when not at war>"
    (Statement.condition "when not at war").kind = some (.condition .notAtWar) ∧
    registry.evaluate (.condition "when not at war") {} = true ∧
    (∀ condition ∈ statement.conditions, condition.kind ≠ some (.condition .happy)) ∧
    (∀ s, statement.appliesBy (registry.register (.condition .happy) never) s =
      statement.appliesBy registry s) ∧
    statement.IsParsed ∧
    ∀ s, statement.appliesBy registry s =
      statement.appliesBy (Registry.standard.registerAll
        [⟨.condition .notAtWar, never⟩, ⟨.condition .notAtWar, always⟩]) s := by
  intro never always replacements registry statement
  have hkind : (Statement.condition "when not at war").kind = some (.condition .notAtWar) := by
    rw [Statement.condition, Statement.parse_eq]
    show Catalog.find? .condition (Clause.pattern (Clause.main "when not at war")) = _
    decide
  have hother : ∀ condition ∈ statement.conditions, condition.kind ≠ some (.condition .happy) := by
    have htexts : Clause.conditions "[+1 Gold] <when not at war>" = ["when not at war"] := by decide
    intro condition hmem
    rw [Statement.conditions_effect, htexts] at hmem
    obtain rfl := List.mem_singleton.mp hmem
    rw [hkind]
    decide
  have hparsed : statement.IsParsed := Statement.isParsed_effect _
  obtain ⟨-, htable, hframe, heffects⟩ := registrations_stay_apart replacements
  refine ⟨hkind, ?_, hother, hframe registry _ never statement hother, hparsed,
    heffects .standard statement hparsed⟩
  -- the last registration has nothing behind it
  exact htable.evaluate_last (builtIn ++ replacements.take 2) [] (.condition .notAtWar) always rfl
    (by simp) _ _ hkind

end Registry

end EffectText
