import EffectText.Proofs.Condition.Meaning

/-! # What conditions read

    A snapshot has eight **parts**. The rule of a kind of condition reads a few of them
    (`ConditionKind.parts`), and its verdict is the same in all snapshots that have these
    parts in common.

    Two snapshots that agree on some parts become one when the other parts are dropped
    (`Snapshot.keep_eq_of_sameAt`), and a rule does not notice that the parts it does not
    read are dropped (`ConditionKind.holds_keep`).

    * `Statement.evaluate_reads_its_parts`: two snapshots with the same parts, for a
      parsed condition and the standard registry.
-/

namespace EffectText

variable {W : World}

/-! ## Parts of a snapshot -/

namespace Snapshot

/-- **Part** of a snapshot. -/
inductive Part where
  | civ
  | city
  | ourCombatant
  | theirCombatant
  | unit
  | attackedTile
  | combatSide
  | region
  deriving DecidableEq, Repr

/-- **Sameness at a part**: it is missing from both snapshots, or both have it with the
    same value. -/
def SameAt (s s' : Snapshot W) : Part → Prop
  | .civ => s.civ = s'.civ
  | .city => s.city = s'.city
  | .ourCombatant => s.ourCombatant = s'.ourCombatant
  | .theirCombatant => s.theirCombatant = s'.theirCombatant
  | .unit => s.unit = s'.unit
  | .attackedTile => s.attackedTile = s'.attackedTile
  | .combatSide => s.combatSide = s'.combatSide
  | .region => s.region = s'.region

/-- The snapshot with some of its parts; the others are dropped. -/
def keep (s : Snapshot W) (parts : List Part) : Snapshot W where
  civ := if .civ ∈ parts then s.civ else none
  city := if .city ∈ parts then s.city else none
  ourCombatant := if .ourCombatant ∈ parts then s.ourCombatant else none
  theirCombatant := if .theirCombatant ∈ parts then s.theirCombatant else none
  unit := if .unit ∈ parts then s.unit else none
  attackedTile := if .attackedTile ∈ parts then s.attackedTile else none
  combatSide := if .combatSide ∈ parts then s.combatSide else none
  region := if .region ∈ parts then s.region else none

/-- Snapshots that are the same at some parts differ in the other parts only. -/
theorem keep_eq_of_sameAt {s s' : Snapshot W} {parts : List Part}
    (h : ∀ part ∈ parts, s.SameAt s' part) : s.keep parts = s'.keep parts := by
  unfold keep
  congr 1
  case e_civ => exact ite_congr rfl (h .civ) fun _ => rfl
  case e_city => exact ite_congr rfl (h .city) fun _ => rfl
  case e_ourCombatant => exact ite_congr rfl (h .ourCombatant) fun _ => rfl
  case e_theirCombatant => exact ite_congr rfl (h .theirCombatant) fun _ => rfl
  case e_unit => exact ite_congr rfl (h .unit) fun _ => rfl
  case e_attackedTile => exact ite_congr rfl (h .attackedTile) fun _ => rfl
  case e_combatSide => exact ite_congr rfl (h .combatSide) fun _ => rfl
  case e_region => exact ite_congr rfl (h .region) fun _ => rfl

end Snapshot

/-! ## What the rules read -/

namespace ConditionKind

open Snapshot (Part)

/-- **What a kind of condition reads** of a snapshot. -/
def parts : ConditionKind → List Part
  -- the state of the civilization
  | .atWar | .notAtWar | .happy | .happinessBetween | .happinessBelow | .goldenAge => [.civ]
  | .beforeEra | .fromEra | .duringEra => [.civ]
  | .techKnown | .techUnknown | .policyAdopted | .policyNotAdopted => [.civ]
  -- the state of the city
  | .specialists | .followers | .garrisoned => [.city]
  -- combat
  | .versusCity | .versusUnits => [.theirCombatant]
  | .ourUnit => [.ourCombatant, .unit]
  | .versusLargerCiv => [.civ, .theirCombatant]
  | .attacking | .defending => [.combatSide]
  | .healthAbove | .healthBelow => [.ourCombatant]
  -- tiles
  | .inTiles | .inBothTiles | .adjacentUnit => [.civ, .unit, .attackedTile]
  | .fightingInTiles => [.civ, .attackedTile]
  | .foreignContinent => [.civ, .unit]
  | .neighborTiles | .neighborBothTiles => [.civ, .city]
  -- regions of the map
  | .waterMap | .inRegion | .outsideRegion => [.region]

/-- The kinds that ask about the relevant tile: the tile under attack, or else the tile
    of the unit. -/
def aboutRelevantTile : List ConditionKind := [.inTiles, .inBothTiles, .adjacentUnit]

/-- **Frame**: dropping the parts that a rule does not read leaves its verdict. -/
theorem holds_keep (kind : ConditionKind) (params : List String) (s : Snapshot W) :
    kind.holds params (s.keep kind.parts) = kind.holds params s := by
  -- for each kind the kept parts are the parts themselves, and the rule asks for no other
  cases kind <;> rfl

/-- The rule of a kind has one verdict for all snapshots that are the same at the parts
    that it reads. -/
theorem holds_eq_of_sameAt {kind : ConditionKind} {s s' : Snapshot W}
    (h : ∀ part ∈ kind.parts, s.SameAt s' part) (params : List String) :
    kind.holds params s = kind.holds params s' :=
  calc kind.holds params s
    _ = kind.holds params (s.keep kind.parts) := (holds_keep kind params s).symm
    _ = kind.holds params (s'.keep kind.parts) := by rw [Snapshot.keep_eq_of_sameAt h]
    _ = kind.holds params s' := holds_keep kind params s'

/-- Of a unit, the rules about the relevant tile read its tile only, and only if no tile
    is under attack. -/
theorem holds_eq_of_relevantTile_eq {kind : ConditionKind} (hkind : kind ∈ aboutRelevantTile)
    {s s' : Snapshot W} (hciv : s.civ = s'.civ) (htile : s.relevantTile = s'.relevantTile)
    (params : List String) : kind.holds params s = kind.holds params s' := by
  simp only [aboutRelevantTile, List.mem_cons, List.not_mem_nil, or_false] at hkind
  rcases hkind with rfl | rfl | rfl <;> simp only [holds, hciv, htile]

end ConditionKind

/-! ## What a condition reads -/

namespace Statement

/-- **What a condition reads** of a snapshot: what its kind reads, and nothing without a
    kind. -/
def parts (statement : Statement) : List Snapshot.Part :=
  match statement.kind with
  | some (.condition kind) => kind.parts
  | _ => []

theorem parts_of_kind {statement : Statement} {kind : ConditionKind}
    (h : statement.kind = some (.condition kind)) : statement.parts = kind.parts := by
  rw [parts, h]

theorem parts_of_kind_eq_none {statement : Statement} (h : statement.kind = none) :
    statement.parts = [] := by
  rw [parts, h]

theorem evaluate_eq_of_sameAt {statement : Statement} {s s' : Snapshot W}
    (h : ∀ part ∈ statement.parts, s.SameAt s' part) :
    Registry.standard.evaluate statement s = Registry.standard.evaluate statement s' := by
  rw [Registry.evaluate_standard, Registry.evaluate_standard]
  unfold parts at h
  split
  · next kind hkind =>
    rw [hkind] at h
    exact ConditionKind.holds_eq_of_sameAt h statement.params
  · rfl

/-- **Reading.** The standard registry has one verdict on the condition of a text in any
    two snapshots that are the same at the parts that its kind reads. For kinds about the
    relevant tile, the unit does not matter while a tile is under attack. A condition
    without a kind reads nothing. -/
theorem evaluate_reads_its_parts (text : String) (s s' : Snapshot W) :
    ((∀ part ∈ (condition text).parts, s.SameAt s' part) →
      Registry.standard.evaluate (condition text) s =
        Registry.standard.evaluate (condition text) s') ∧
    (∀ kind ∈ ConditionKind.aboutRelevantTile,
      (condition text).kind = some (.condition kind) →
      s.SameAt s' .civ → s.SameAt s' .attackedTile → s.attackedTile.isSome = true →
      Registry.standard.evaluate (condition text) s =
        Registry.standard.evaluate (condition text) s') ∧
    ((condition text).kind = none →
      Registry.standard.evaluate (condition text) s =
        Registry.standard.evaluate (condition text) s') := by
  refine ⟨evaluate_eq_of_sameAt, ?attacked, ?unknown⟩
  case attacked =>
    intro kind habout hkind hciv hattacked hthere
    have htile : s.relevantTile = s'.relevantTile := by
      obtain ⟨tile, htile⟩ := Option.isSome_iff_exists.mp hthere
      have htile' : s'.attackedTile = some tile := hattacked.symm.trans htile
      simp [Snapshot.relevantTile, htile, htile']
    rw [Registry.evaluate_standard_of_kind hkind, Registry.evaluate_standard_of_kind hkind]
    exact ConditionKind.holds_eq_of_relevantTile_eq habout hciv htile _
  case unknown =>
    intro hkind
    apply evaluate_eq_of_sameAt
    simp [parts_of_kind_eq_none hkind]

/-- Another city; another unit, while a tile is under attack; and nothing in common. -/
theorem evaluate_reads_its_parts_inTiles :
    (∀ part ∈ (condition "in [Hill] tiles").parts,
      Snapshot.SameAt (W := Plain.world) { unit := some { tile := { filters := ["Hill"] } } }
        { unit := some { tile := { filters := ["Hill"] } }, city := some {} } part) ∧
    Registry.standard.evaluate (W := Plain.world) (condition "in [Hill] tiles")
        { unit := some { tile := { filters := ["Hill"] } } } =
      Registry.standard.evaluate (W := Plain.world) (condition "in [Hill] tiles")
        { unit := some { tile := { filters := ["Hill"] } }, city := some {} } ∧
    ConditionKind.inTiles ∈ ConditionKind.aboutRelevantTile ∧
    (condition "in [Hill] tiles").kind = some (.condition .inTiles) ∧
    Registry.standard.evaluate (W := Plain.world) (condition "in [Hill] tiles")
        { attackedTile := some { filters := ["Hill"] } } =
      Registry.standard.evaluate (W := Plain.world) (condition "in [Hill] tiles")
        { attackedTile := some { filters := ["Hill"] }, unit := some { tile := {} } } ∧
    (condition "Unbuildable").kind = none ∧
    Registry.standard.evaluate (W := Plain.world) (condition "Unbuildable") {} =
      Registry.standard.evaluate (W := Plain.world) (condition "Unbuildable")
        { attackedTile := some { filters := ["Hill"] } } := by
  have habout : ConditionKind.inTiles ∈ ConditionKind.aboutRelevantTile := by decide
  have htext : (Kind.condition .inTiles).written ["Hill"] = "in [Hill] tiles" := by decide
  have hkind : (condition "in [Hill] tiles").kind = some (.condition .inTiles) := by
    rw [← htext]
    exact (ConditionKind.condition_written .inTiles (by decide) (by decide)).1
  have hwrites : (Kind.effect .unbuildable).Writes [] (Clause.main "Unbuildable") :=
    Kind.writes_iff.mpr (by decide)
  have hunknown : (condition "Unbuildable").kind = none := kind_condition_of_effect hwrites
  have hsame : ∀ part ∈ (condition "in [Hill] tiles").parts,
      Snapshot.SameAt (W := Plain.world) { unit := some { tile := { filters := ["Hill"] } } }
        { unit := some { tile := { filters := ["Hill"] } }, city := some {} } part := by
    rw [parts_of_kind hkind]
    simp [ConditionKind.parts, Snapshot.SameAt]
  obtain ⟨hparts, -, -⟩ := evaluate_reads_its_parts (W := Plain.world) "in [Hill] tiles"
    { unit := some { tile := { filters := ["Hill"] } } }
    { unit := some { tile := { filters := ["Hill"] } }, city := some {} }
  obtain ⟨-, hattacked, -⟩ := evaluate_reads_its_parts (W := Plain.world) "in [Hill] tiles"
    { attackedTile := some { filters := ["Hill"] } }
    { attackedTile := some { filters := ["Hill"] }, unit := some { tile := {} } }
  obtain ⟨-, -, hnothing⟩ := evaluate_reads_its_parts (W := Plain.world) "Unbuildable" {}
    { attackedTile := some { filters := ["Hill"] } }
  exact ⟨hsame, hparts hsame, habout, hkind, hattacked _ habout hkind rfl rfl rfl, hunknown,
    hnothing hunknown⟩

end Statement

end EffectText
