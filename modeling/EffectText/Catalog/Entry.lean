import EffectText.Catalog.Kind

/-! # The catalog

    Each kind has one **entry**: its name, its authoring text with named slots such
    as `[amount]`, the targets that may declare it, and its flags.
-/

namespace EffectText

/-- **Entry**: what the catalog says about one kind. -/
structure Entry where
  /-- The name by which reports and tools call the kind. -/
  name : String
  /-- How an author writes a statement of the kind, with named slots. -/
  text : String
  /-- What may declare such a statement. -/
  targets : List Target
  /-- How such a statement behaves. -/
  flags : List Flag
  deriving Repr

/-- An entry whose effect acts once, when triggered. -/
def Entry.oneTime (name text : String) : Entry :=
  { name, text, targets := [.triggerable, .ruins], flags := [.triggeredAction] }

/-- An entry of a condition. -/
def Entry.condition (name text : String) : Entry :=
  { name, text, targets := [.conditional], flags := [] }

/-- The entry of each kind of effect. -/
def EffectKind.entry : EffectKind → Entry
  | .yields =>
    ⟨"Stats", "[stats]",
      [.global, .building, .policy, .belief, .terrain, .improvement, .resource],
      [.appliesPerTurn]⟩
  | .yieldsPerCity =>
    ⟨"StatsPerCity", "[stats] [cityFilter]", [.global, .nation, .building, .policy, .belief],
      [.appliesPerTurn]⟩
  | .yieldsFromTiles =>
    ⟨"StatsFromTiles", "[stats] from [tileFilter] tiles [cityFilter]",
      [.global, .building, .policy], [.appliesPerTurn]⟩
  | .yieldsPerPopulation =>
    ⟨"StatsPerPopulation", "[stats] per [amount] population [cityFilter]",
      [.global, .building, .policy], [.appliesPerTurn]⟩
  | .yieldPercent =>
    ⟨"StatPercentBonus", "[amount]% [stat]", [.global, .building, .policy], []⟩
  | .yieldPercentInCities =>
    ⟨"StatPercentBonusCities", "[amount]% [stat] [cityFilter]",
      [.global, .building, .policy], []⟩
  | .strength =>
    ⟨"Strength", "[amount]% Strength", [.global, .nation, .unit, .unitType, .promotion], []⟩
  | .movement =>
    ⟨"Movement", "[amount] Movement", [.global, .unit, .unitType, .promotion], []⟩
  | .sight =>
    ⟨"Sight", "[amount] Sight", [.global, .unit, .unitType, .promotion, .terrain], []⟩
  | .healInTiles =>
    ⟨"HealInTiles", "[amount] HP when healing in [tileFilter] tiles", [.unit, .promotion],
      [.appliesPerTurn]⟩
  | .healAdjacentUnits =>
    ⟨"HealAdjacentUnits", "All adjacent units heal [amount] HP when healing",
      [.unit, .promotion], [.appliesPerTurn]⟩
  | .freeMaintenance =>
    ⟨"FreeUnitMaintenance", "[amount] units cost no maintenance", [.global, .policy], []⟩
  | .goldenAgeLength =>
    ⟨"GoldenAgeLength", "[amount]% Golden Age length", [.global, .nation, .policy], []⟩
  | .hiddenFromEncyclopedia =>
    ⟨"HiddenFromCivilopedia", "Will not be displayed in Civilopedia",
      [.building, .unit, .terrain, .improvement, .resource], [.hiddenToUsers]⟩
  | .unbuildable => ⟨"Unbuildable", "Unbuildable", [.building, .unit, .improvement], []⟩
  | .freeUnit => .oneTime "OneTimeFreeUnit" "Free [baseUnitFilter] appears"
  | .freeUnits =>
    .oneTime "OneTimeAmountFreeUnits" "[amount] free [baseUnitFilter] units appear"
  | .freeTech => .oneTime "OneTimeFreeTech" "Free Technology"
  | .freePolicy => .oneTime "OneTimeFreePolicy" "Free Social Policy"
  | .enterGoldenAge => .oneTime "OneTimeEnterGoldenAge" "Empire enters golden age"
  | .gainYield => .oneTime "OneTimeGainStat" "Gain [amount] [stat]"
  | .revealMap => .oneTime "OneTimeRevealEntireMap" "Reveals the entire map"

/-- The entry of each kind of condition. -/
def ConditionKind.entry : ConditionKind → Entry
  | .atWar => .condition "ConditionalWar" "when at war"
  | .notAtWar => .condition "ConditionalNotWar" "when not at war"
  | .happy => .condition "ConditionalHappy" "while the empire is happy"
  | .happinessBetween =>
    .condition "ConditionalBetweenHappiness" "when between [amount] and [amount] Happiness"
  | .happinessBelow =>
    .condition "ConditionalBelowHappiness" "when below [amount] Happiness"
  | .goldenAge => .condition "ConditionalGoldenAge" "during a Golden Age"
  | .beforeEra => .condition "ConditionalBeforeEra" "before the [era]"
  | .fromEra => .condition "ConditionalStartingFromEra" "starting from the [era]"
  | .duringEra => .condition "ConditionalDuringEra" "during the [era]"
  | .techKnown => .condition "ConditionalTech" "after discovering [tech]"
  | .techUnknown => .condition "ConditionalNoTech" "before discovering [tech]"
  | .policyAdopted => .condition "ConditionalPolicy" "after adopting [policy]"
  | .policyNotAdopted => .condition "ConditionalNoPolicy" "before adopting [policy]"
  | .specialists =>
    .condition "ConditionalSpecialistCount" "if this city has at least [amount] specialists"
  | .followers =>
    .condition "ConditionalFollowerCount"
      "in cities where this religion has at least [amount] followers"
  | .garrisoned => .condition "ConditionalWhenGarrisoned" "with a garrison"
  | .versusCity => .condition "ConditionalVsCity" "vs cities"
  | .versusUnits => .condition "ConditionalVsUnits" "vs [mapUnitFilter] units"
  | .ourUnit => .condition "ConditionalOurUnit" "for [mapUnitFilter] units"
  | .versusLargerCiv =>
    .condition "ConditionalVsLargerCiv"
      "when fighting units from a Civilization with more Cities than you"
  | .attacking => .condition "ConditionalAttacking" "when attacking"
  | .defending => .condition "ConditionalDefending" "when defending"
  | .healthAbove => .condition "ConditionalAboveHP" "when above [amount] HP"
  | .healthBelow => .condition "ConditionalBelowHP" "when below [amount] HP"
  | .inTiles => .condition "ConditionalInTiles" "in [tileFilter] tiles"
  | .inBothTiles => .condition "ConditionalInTilesAnd" "in [tileFilter] [tileFilter] tiles"
  | .fightingInTiles =>
    .condition "ConditionalFightingInTiles" "when fighting in [tileFilter] tiles"
  | .foreignContinent => .condition "ConditionalForeignContinent" "on a foreign continent"
  | .adjacentUnit =>
    .condition "ConditionalAdjacentUnit" "when adjacent to a [mapUnitFilter] unit"
  | .neighborTiles =>
    .condition "ConditionalNeighborTiles"
      "with [amount] to [amount] neighboring [tileFilter] tiles"
  | .neighborBothTiles =>
    .condition "ConditionalNeighborTilesAnd"
      "with [amount] to [amount] neighboring [tileFilter] [tileFilter] tiles"
  | .waterMap => .condition "ConditionalOnWaterMaps" "on water maps"
  | .inRegion => .condition "ConditionalInRegionOfType" "in [regionType] Regions"
  | .outsideRegion =>
    .condition "ConditionalInRegionExceptOfType" "in all except [regionType] Regions"

namespace Kind

/-- The entry of a kind. -/
def entry : Kind → Entry
  | .effect kind => kind.entry
  | .condition kind => kind.entry

/-- The name of a kind. -/
def name (kind : Kind) : String := kind.entry.name

/-- Whether a kind has a flag. -/
def hasFlag (kind : Kind) (flag : Flag) : Bool := kind.entry.flags.contains flag

/-- The kind of exactly this name. -/
def ofName? (name : String) : Option Kind := all.find? (·.name == name)

/-- The place of a kind in the catalog, counted from zero. -/
def place (kind : Kind) : Nat := all.idxOf kind

/-- The conditions are the kinds that carry the mark of conditions. -/
theorem conditional_mem_targets_iff (kind : Kind) :
    Target.conditional ∈ kind.entry.targets ↔ kind.half = .condition := by
  cases kind with
  | effect e => cases e <;> decide
  | condition c => cases c <;> decide

end Kind

end EffectText
