import EffectText.Condition.Registry
import EffectText.Proofs.Catalog.Recognition
import EffectText.Proofs.Number.Numeral
import EffectText.World.Plain

/-! # What conditions mean

    The **meaning** of a kind of condition is a proposition about a snapshot and the
    texts in the slots (`ConditionKind.Means`). It says what has to be there and how
    it has to compare, and nothing about the order of reading.

    * `ConditionKind.holds_iff_means`: the rule of each kind decides its meaning.
    * `ConditionKind.evaluate_written_iff`: so does the whole way from a written text,
      through recognition and the standard registry.
-/

namespace EffectText

open Text

variable {W : World}

/-! ## Slots -/

/-- **Integer slot**: apart from blanks around it, the slot at this place spells the
    integer, and the integer fits in thirty-two bits. -/
def IntSlot (slots : List String) (place : Nat) (n : Int) : Prop :=
  ∃ slot ∈ slots[place]?, Spells (trim slot.toList) n ∧ -2 ^ 31 ≤ n ∧ n < 2 ^ 31

theorem paramInt?_eq_some_iff {slots : List String} {place : Nat} {n : Int} :
    paramInt? slots place = some n ↔ IntSlot slots place n := by
  simp only [paramInt?, IntSlot, Option.bind_eq_some_iff, int32?_eq_some_iff, Option.mem_def]

/-! ## Places -/

namespace Snapshot

/-- **Taking place**: on the tile under attack, or on the tile of the unit if no tile
    is under attack. -/
def TakesPlaceOn (s : Snapshot W) (tile : W.Tile) : Prop :=
  s.attackedTile = some tile ∨
    s.attackedTile = none ∧ ∃ unit ∈ s.unit, W.tileOf unit = tile

theorem relevantTile_eq_some_iff {s : Snapshot W} {tile : W.Tile} :
    s.relevantTile = some tile ↔ s.TakesPlaceOn tile := by
  unfold relevantTile TakesPlaceOn
  cases s.attackedTile <;> simp

end Snapshot

/-- The tiles around the center of a city that satisfy a condition. -/
def World.neighborsWhere (W : World) (city : W.City) (passes : W.Tile → Bool) : List W.Tile :=
  (W.neighbors (W.center city)).filter passes

/-! ## Meanings -/

namespace ConditionKind

/-- **Meaning** of a kind of condition, for the texts in its slots. -/
def Means (kind : ConditionKind) (slots : List String) (s : Snapshot W) : Prop :=
  match kind with
  -- the state of the civilization
  | .atWar => ∃ civ ∈ s.civ, W.isAtWar civ = true
  | .notAtWar => ∃ civ ∈ s.civ, W.isAtWar civ = false
  | .happy => ∃ civ ∈ s.civ, 0 ≤ W.happiness civ
  | .happinessBetween =>
    ∃ low high, IntSlot slots 0 low ∧ IntSlot slots 1 high ∧
      ∃ civ ∈ s.civ, low ≤ W.happiness civ ∧ W.happiness civ < high
  | .happinessBelow => ∃ limit, IntSlot slots 0 limit ∧ ∃ civ ∈ s.civ, W.happiness civ < limit
  | .goldenAge => ∃ civ ∈ s.civ, W.inGoldenAge civ = true
  | .beforeEra =>
    ∃ civ ∈ s.civ, ∃ era ∈ slots[0]?, ∃ number ∈ (W.ruleset civ).eraNumber? era,
      W.eraNumber civ < number
  | .fromEra =>
    ∃ civ ∈ s.civ, ∃ era ∈ slots[0]?, ∃ number ∈ (W.ruleset civ).eraNumber? era,
      number ≤ W.eraNumber civ
  | .duringEra =>
    ∃ civ ∈ s.civ, ∃ era ∈ slots[0]?, ∃ number ∈ (W.ruleset civ).eraNumber? era,
      W.eraNumber civ = number
  | .techKnown => ∃ tech ∈ slots[0]?, ∃ civ ∈ s.civ, W.knowsTech civ tech = true
  | .techUnknown => ∃ tech ∈ slots[0]?, ∃ civ ∈ s.civ, W.knowsTech civ tech = false
  | .policyAdopted => ∃ policy ∈ slots[0]?, ∃ civ ∈ s.civ, W.hasAdopted civ policy = true
  | .policyNotAdopted => ∃ policy ∈ slots[0]?, ∃ civ ∈ s.civ, W.hasAdopted civ policy = false
  -- the state of the city
  | .specialists => ∃ least, IntSlot slots 0 least ∧ ∃ city ∈ s.city, least ≤ W.specialists city
  | .followers => ∃ least, IntSlot slots 0 least ∧ ∃ city ∈ s.city, least ≤ W.followers city
  | .garrisoned =>
    ∃ city ∈ s.city, ∃ unit ∈ W.unitOn (W.center city), W.canGarrison unit = true
  -- combat
  | .versusCity => ∃ theirs ∈ s.theirCombatant, W.combatantPasses theirs "City" = true
  | .versusUnits =>
    ∃ filter ∈ slots[0]?, ∃ theirs ∈ s.theirCombatant, W.combatantPasses theirs filter = true
  | .ourUnit =>
    ∃ filter ∈ slots[0]?,
      (∃ ours ∈ s.ourCombatant, W.combatantPasses ours filter = true) ∨
      ∃ unit ∈ s.unit, W.unitPasses unit filter = true
  | .versusLargerCiv =>
    ∃ theirs ∈ s.theirCombatant, ∃ civ ∈ s.civ, W.cityCount civ < W.cityCount (W.civOf theirs)
  | .attacking => s.combatSide = some .attack
  | .defending => s.combatSide = some .defend
  | .healthAbove => ∃ limit, IntSlot slots 0 limit ∧ ∃ ours ∈ s.ourCombatant, limit < W.health ours
  | .healthBelow => ∃ limit, IntSlot slots 0 limit ∧ ∃ ours ∈ s.ourCombatant, W.health ours < limit
  -- tiles
  | .inTiles =>
    ∃ filter ∈ slots[0]?, ∃ tile, s.TakesPlaceOn tile ∧ W.tilePasses tile filter s.civ = true
  | .inBothTiles =>
    ∃ first ∈ slots[0]?, ∃ second ∈ slots[1]?, ∃ tile, s.TakesPlaceOn tile ∧
      W.tilePasses tile first s.civ = true ∧ W.tilePasses tile second s.civ = true
  | .fightingInTiles =>
    ∃ filter ∈ slots[0]?, ∃ tile ∈ s.attackedTile, W.tilePasses tile filter s.civ = true
  | .foreignContinent =>
    ∃ unit ∈ s.unit, ∃ civ ∈ s.civ,
      W.cityCount civ = 0 ∨
        ∃ home ∈ W.capitalContinent civ, home ≠ W.continent (W.tileOf unit)
  | .adjacentUnit =>
    ∃ filter ∈ slots[0]?, ∃ civ ∈ s.civ, ∃ tile, s.TakesPlaceOn tile ∧
      ∃ neighbor ∈ W.neighbors tile, ∃ unit ∈ W.unitOn neighbor,
        W.owner unit = W.civName civ ∧ W.unitPasses unit filter = true
  | .neighborTiles =>
    ∃ low high, IntSlot slots 0 low ∧ IntSlot slots 1 high ∧ ∃ filter ∈ slots[2]?,
      ∃ city ∈ s.city,
        let count := (W.neighborsWhere city fun tile => W.tilePasses tile filter s.civ).length
        low ≤ count ∧ count ≤ high
  | .neighborBothTiles =>
    ∃ low high, IntSlot slots 0 low ∧ IntSlot slots 1 high ∧
      ∃ first ∈ slots[2]?, ∃ second ∈ slots[3]?, ∃ city ∈ s.city,
        let count := (W.neighborsWhere city fun tile =>
          W.tilePasses tile first s.civ && W.tilePasses tile second s.civ).length
        low ≤ count ∧ count ≤ high
  -- regions of the map
  | .waterMap => ∃ region ∈ s.region, region.continent = -1
  | .inRegion => ∃ type ∈ slots[0]?, ∃ region ∈ s.region, region.type = type
  | .outsideRegion => ∃ type ∈ slots[0]?, ∃ region ∈ s.region, region.type ≠ type

/-! ## Rules decide meanings -/

theorem comparesEra_iff {compare : Int → Int → Bool} {slots : List String} {s : Snapshot W} :
    comparesEra compare slots s = true ↔
      ∃ civ ∈ s.civ, ∃ era ∈ slots[0]?, ∃ number ∈ (W.ruleset civ).eraNumber? era,
        compare (W.eraNumber civ) number = true := by
  unfold comparesEra
  rw [Option.any_eq_true]
  cases slots[0]? <;> simp [Option.any_eq_true]

theorem countsNeighbors_iff {passes : W.Tile → Bool} {slots : List String} {s : Snapshot W} :
    countsNeighbors passes slots s = true ↔
      ∃ low high, IntSlot slots 0 low ∧ IntSlot slots 1 high ∧ ∃ city ∈ s.city,
        low ≤ (W.neighborsWhere city passes).length ∧
          (W.neighborsWhere city passes).length ≤ high := by
  unfold countsNeighbors World.neighborsWhere
  simp only [← paramInt?_eq_some_iff]
  cases paramInt? slots 0 <;> cases paramInt? slots 1 <;>
    simp [Option.any_eq_true, List.countP_eq_length_filter]

/-- **Rules**: the rule of a kind decides the meaning of the kind. -/
theorem holds_iff_means (kind : ConditionKind) (slots : List String) (s : Snapshot W) :
    kind.holds slots s = true ↔ kind.Means slots s := by
  cases kind
  -- rules that need several parts at once are false as soon as one is missing
  case happinessBetween =>
    simp only [holds, Means, ← paramInt?_eq_some_iff]
    cases paramInt? slots 0 <;> cases paramInt? slots 1 <;> simp [Option.any_eq_true]
  case inBothTiles =>
    simp only [holds, Means, ← Snapshot.relevantTile_eq_some_iff]
    cases slots[0]? <;> cases slots[1]? <;> simp [Option.any_eq_true]
  case adjacentUnit =>
    simp only [holds, Means, ← Snapshot.relevantTile_eq_some_iff]
    cases slots[0]? <;> cases s.civ <;> cases s.relevantTile <;> simp [Option.any_eq_true]
  -- rules that share their reading with others
  case beforeEra =>
    rw [holds, comparesEra_iff]
    simp [Means]
  case fromEra =>
    rw [holds, comparesEra_iff]
    simp [Means]
  case duringEra =>
    rw [holds, comparesEra_iff]
    simp [Means]
  case neighborTiles =>
    simp only [holds, Means, Option.any_eq_true, countsNeighbors_iff]
    constructor
    · rintro ⟨filter, hfilter, low, high, hlow, hhigh, hcount⟩
      exact ⟨low, high, hlow, hhigh, filter, hfilter, hcount⟩
    · rintro ⟨low, high, hlow, hhigh, filter, hfilter, hcount⟩
      exact ⟨filter, hfilter, low, high, hlow, hhigh, hcount⟩
  case neighborBothTiles =>
    unfold holds Means
    cases slots[2]? with
    | none => simp
    | some first =>
      cases slots[3]? with
      | none => simp
      | some second => simp [countsNeighbors_iff]
  case waterMap => simp [holds, Means, Option.any_eq_true, Region.waterMapContinent]
  all_goals
    simp [holds, Means, Option.any_eq_true, paramInt?_eq_some_iff,
      Snapshot.relevantTile_eq_some_iff]

/-! ## Written conditions -/

/-- A condition written with plain slots is recognized as its kind, with its slots as
    parameters. -/
theorem condition_written (kind : ConditionKind) {slots : List String}
    (hlength : slots.length = (Kind.condition kind).slotCount)
    (hslots : ∀ slot ∈ slots, Clause.IsPlainSlot slot) :
    (Statement.condition ((Kind.condition kind).written slots)).kind =
        some (Kind.condition kind) ∧
      (Statement.condition ((Kind.condition kind).written slots)).params = slots := by
  have hmain : Clause.main ((Kind.condition kind).written slots) =
      (Kind.condition kind).written slots :=
    ((Kind.isPlainClause_text _).replace hslots).main_eq
  have hwrites : (Kind.condition kind).Writes slots
      (Clause.main ((Kind.condition kind).written slots)) := by
    rw [hmain]
    exact ⟨hlength, fun slot hslot => (hslots slot hslot).square, rfl⟩
  constructor
  · exact Statement.kind_parse_eq_some_iff.mpr ⟨rfl, slots, hwrites⟩
  · exact Statement.params_parse.trans hwrites.params_eq

/-- **Condition semantics.** Take the authoring text of a kind of condition and write
    plain texts into its slots, one into each. In every snapshot, parsing the result as
    a condition and deciding it with the standard registry gives the meaning of the
    kind for these texts. -/
theorem evaluate_written_iff (kind : ConditionKind) (slots : List String)
    (hlength : slots.length = (Kind.condition kind).slotCount)
    (hslots : ∀ slot ∈ slots, Clause.IsPlainSlot slot) (s : Snapshot W) :
    Registry.standard.evaluate (Statement.condition ((Kind.condition kind).written slots)) s =
      true ↔ kind.Means slots s := by
  obtain ⟨hkind, hparams⟩ := condition_written kind hlength hslots
  have hrule : Registry.standard.evaluate
      (Statement.condition ((Kind.condition kind).written slots)) s = kind.holds slots s := by
    simp only [Registry.evaluate, hkind, Registry.standard, hparams]
  rw [hrule, holds_iff_means]

/-- Signs of both sorts, a blank beside an integer, and a happiness just below the
    upper end. -/
theorem evaluate_written_happinessBetween :
    (Kind.condition .happinessBetween).written ["-3", " +10 "] =
      "when between [-3] and [ +10 ] Happiness" ∧
    ["-3", " +10 "].length = (Kind.condition .happinessBetween).slotCount ∧
    (∀ slot ∈ ["-3", " +10 "], Clause.IsPlainSlot slot) ∧
    Registry.standard.evaluate
      (Statement.condition ((Kind.condition .happinessBetween).written ["-3", " +10 "]))
      { civ := some { happiness := 9 } : Snapshot Plain.world } = true := by
  have hlength : ["-3", " +10 "].length = (Kind.condition .happinessBetween).slotCount := by
    decide
  have hslots : ∀ slot ∈ ["-3", " +10 "], Clause.IsPlainSlot slot := by decide
  have hlow : IntSlot ["-3", " +10 "] 0 (-3) := paramInt?_eq_some_iff.mp (by decide)
  have hhigh : IntSlot ["-3", " +10 "] 1 10 := paramInt?_eq_some_iff.mp (by decide)
  refine ⟨by decide, hlength, hslots, ?_⟩
  rw [evaluate_written_iff _ _ hlength hslots]
  exact ⟨-3, 10, hlow, hhigh, { happiness := 9 }, rfl, by decide, by decide⟩

end ConditionKind

end EffectText
