import EffectText.Catalog.Target

/-! # Kinds of statement

    Every statement that the catalog knows has a **kind**. There are two halves:
    kinds of **effect**, and kinds of **condition**. The half is part of the kind,
    so a statement can never be taken for one of the other half.
-/

namespace EffectText

/-- What a kind of effect does. -/
inductive EffectKind where
  -- yields
  | yields
  | yieldsPerCity
  | yieldsFromTiles
  | yieldsPerPopulation
  | yieldPercent
  | yieldPercentInCities
  -- units and combat
  | strength
  | movement
  | sight
  | healInTiles
  | healAdjacentUnits
  | freeMaintenance
  -- whole civilizations
  | goldenAgeLength
  | hiddenFromEncyclopedia
  | unbuildable
  -- once, when triggered
  | freeUnit
  | freeUnits
  | freeTech
  | freePolicy
  | enterGoldenAge
  | gainYield
  | revealMap
  deriving DecidableEq, Hashable, Repr, Inhabited

/-- What a kind of condition asks for. -/
inductive ConditionKind where
  -- the state of the civilization
  | atWar
  | notAtWar
  | happy
  | happinessBetween
  | happinessBelow
  | goldenAge
  | beforeEra
  | fromEra
  | duringEra
  | techKnown
  | techUnknown
  | policyAdopted
  | policyNotAdopted
  -- the state of the city
  | specialists
  | followers
  | garrisoned
  -- combat
  | versusCity
  | versusUnits
  | ourUnit
  | versusLargerCiv
  | attacking
  | defending
  | healthAbove
  | healthBelow
  -- tiles
  | inTiles
  | inBothTiles
  | fightingInTiles
  | foreignContinent
  | adjacentUnit
  | neighborTiles
  | neighborBothTiles
  -- regions of the map
  | waterMap
  | inRegion
  | outsideRegion
  deriving DecidableEq, Hashable, Repr, Inhabited

/-- The two halves of the catalog. -/
inductive Half where
  | effect
  | condition
  deriving DecidableEq, Hashable, Repr, Inhabited

/-- **Kind** of a statement: a kind of effect or a kind of condition. -/
inductive Kind where
  | effect (kind : EffectKind)
  | condition (kind : ConditionKind)
  deriving DecidableEq, Hashable, Repr, Inhabited

/-- How a kind behaves. -/
inductive Flag where
  /-- Not shown to players. -/
  | hiddenToUsers
  /-- Counts on every turn while it applies. -/
  | appliesPerTurn
  /-- Acts once, when triggered. -/
  | triggeredAction
  deriving DecidableEq, Hashable, Repr, Inhabited

/-- The name of a half. -/
def Half.name : Half → String
  | .effect => "Effect"
  | .condition => "Conditional"

/-- The name of a flag. -/
def Flag.name : Flag → String
  | .hiddenToUsers => "HiddenToUsers"
  | .appliesPerTurn => "AppliesPerTurn"
  | .triggeredAction => "TriggeredAction"

/-- Every flag. -/
def Flag.all : List Flag := [.hiddenToUsers, .appliesPerTurn, .triggeredAction]

/-- Every kind of effect, in the order of the catalog. -/
def EffectKind.all : List EffectKind :=
  [.yields, .yieldsPerCity, .yieldsFromTiles, .yieldsPerPopulation, .yieldPercent,
    .yieldPercentInCities, .strength, .movement, .sight, .healInTiles, .healAdjacentUnits,
    .freeMaintenance, .goldenAgeLength, .hiddenFromEncyclopedia, .unbuildable, .freeUnit,
    .freeUnits, .freeTech, .freePolicy, .enterGoldenAge, .gainYield, .revealMap]

/-- Every kind of condition, in the order of the catalog. -/
def ConditionKind.all : List ConditionKind :=
  [.atWar, .notAtWar, .happy, .happinessBetween, .happinessBelow, .goldenAge, .beforeEra,
    .fromEra, .duringEra, .techKnown, .techUnknown, .policyAdopted, .policyNotAdopted,
    .specialists, .followers, .garrisoned, .versusCity, .versusUnits, .ourUnit,
    .versusLargerCiv, .attacking, .defending, .healthAbove, .healthBelow, .inTiles,
    .inBothTiles, .fightingInTiles, .foreignContinent, .adjacentUnit, .neighborTiles,
    .neighborBothTiles, .waterMap, .inRegion, .outsideRegion]

namespace Kind

/-- The half of the catalog that a kind belongs to. -/
def half : Kind → Half
  | .effect _ => .effect
  | .condition _ => .condition

/-- Every kind: the effects, then the conditions. -/
def all : List Kind := EffectKind.all.map .effect ++ ConditionKind.all.map .condition

theorem mem_all (kind : Kind) : kind ∈ all := by
  cases kind with
  | effect e => cases e <;> decide
  | condition c => cases c <;> decide

theorem nodup_all : all.Nodup := by decide

end Kind

end EffectText
