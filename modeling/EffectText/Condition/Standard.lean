import EffectText.Number.Reading
import EffectText.Statement
import EffectText.World.Snapshot

/-! # What the conditions ask

    One rule for each kind of condition: from the parameters of the condition and a
    snapshot to a verdict.

    Every rule **fails closed**. It is false if a part of the snapshot that it reads
    is missing, if a parameter is missing, or if a parameter that should be an
    integer is none. Rules that ask for the opposite of another, such as "not at
    war", are no exception.
-/

namespace EffectText

open Text

/-! ## Parameters -/

/-- The integer that a parameter spells, apart from blanks around it. -/
def paramInt? (params : List String) (index : Nat) : Option Int :=
  params[index]?.bind fun param => int32? (trim param.toList)

namespace ConditionKind

variable {W : World}

/-- Whether the civilization stands in a relation to the era that the first
    parameter names: its own era number first, then the era's number in its own
    ruleset. -/
def comparesEra (compare : Int → Int → Bool) (params : List String) (s : Snapshot W) : Bool :=
  s.civ.any fun civ =>
    (params[0]?.bind (W.ruleset civ).eraNumber?).any (compare (W.eraNumber civ))

/-- Whether the number of tiles around the city that satisfy `passes` lies between
    the first two parameters, both included. -/
def countsNeighbors (passes : W.Tile → Bool) (params : List String) (s : Snapshot W) : Bool :=
  match paramInt? params 0, paramInt? params 1 with
  | some low, some high =>
    s.city.any fun city =>
      let count : Int := (W.neighbors (W.center city)).countP passes
      low ≤ count && count ≤ high
  | _, _ => false

/-- **Verdict** of a kind of condition, for the given parameters in a snapshot. -/
def holds (kind : ConditionKind) (params : List String) (s : Snapshot W) : Bool :=
  match kind with
  -- the state of the civilization
  | .atWar => s.civ.any W.isAtWar
  | .notAtWar => s.civ.any fun civ => !W.isAtWar civ
  | .happy => s.civ.any fun civ => 0 ≤ W.happiness civ
  | .happinessBetween =>
    match paramInt? params 0, paramInt? params 1 with
    | some low, some high =>
      s.civ.any fun civ => low ≤ W.happiness civ && W.happiness civ < high
    | _, _ => false
  | .happinessBelow =>
    (paramInt? params 0).any fun limit => s.civ.any fun civ => W.happiness civ < limit
  | .goldenAge => s.civ.any W.inGoldenAge
  | .beforeEra => comparesEra (fun ours era => ours < era) params s
  | .fromEra => comparesEra (fun ours era => era ≤ ours) params s
  | .duringEra => comparesEra (fun ours era => ours == era) params s
  | .techKnown => params[0]?.any fun tech => s.civ.any fun civ => W.knowsTech civ tech
  | .techUnknown => params[0]?.any fun tech => s.civ.any fun civ => !W.knowsTech civ tech
  | .policyAdopted => params[0]?.any fun policy => s.civ.any fun civ => W.hasAdopted civ policy
  | .policyNotAdopted =>
    params[0]?.any fun policy => s.civ.any fun civ => !W.hasAdopted civ policy
  -- the state of the city
  | .specialists =>
    (paramInt? params 0).any fun least => s.city.any fun city => least ≤ W.specialists city
  | .followers =>
    (paramInt? params 0).any fun least => s.city.any fun city => least ≤ W.followers city
  | .garrisoned => s.city.any fun city => (W.unitOn (W.center city)).any W.canGarrison
  -- combat
  | .versusCity => s.theirCombatant.any fun theirs => W.combatantPasses theirs "City"
  | .versusUnits =>
    params[0]?.any fun filter =>
      s.theirCombatant.any fun theirs => W.combatantPasses theirs filter
  | .ourUnit =>
    params[0]?.any fun filter =>
      s.ourCombatant.any (fun ours => W.combatantPasses ours filter) ||
        s.unit.any fun unit => W.unitPasses unit filter
  | .versusLargerCiv =>
    s.theirCombatant.any fun theirs =>
      s.civ.any fun civ => W.cityCount civ < W.cityCount (W.civOf theirs)
  | .attacking => s.combatSide == some .attack
  | .defending => s.combatSide == some .defend
  | .healthAbove =>
    (paramInt? params 0).any fun limit => s.ourCombatant.any fun ours => limit < W.health ours
  | .healthBelow =>
    (paramInt? params 0).any fun limit => s.ourCombatant.any fun ours => W.health ours < limit
  -- tiles
  | .inTiles =>
    params[0]?.any fun filter => s.relevantTile.any fun tile => W.tilePasses tile filter s.civ
  | .inBothTiles =>
    match params[0]?, params[1]? with
    | some first, some second =>
      s.relevantTile.any fun tile =>
        W.tilePasses tile first s.civ && W.tilePasses tile second s.civ
    | _, _ => false
  | .fightingInTiles =>
    params[0]?.any fun filter => s.attackedTile.any fun tile => W.tilePasses tile filter s.civ
  | .foreignContinent =>
    -- a civilization without cities is abroad everywhere, one without a capital nowhere
    s.unit.any fun unit =>
      s.civ.any fun civ =>
        W.cityCount civ == 0 ||
          (W.capitalContinent civ).any fun home => home != W.continent (W.tileOf unit)
  | .adjacentUnit =>
    match params[0]?, s.civ, s.relevantTile with
    | some filter, some civ, some tile =>
      (W.neighbors tile).any fun neighbor =>
        (W.unitOn neighbor).any fun unit =>
          W.owner unit == W.civName civ && W.unitPasses unit filter
    | _, _, _ => false
  | .neighborTiles =>
    params[2]?.any fun filter =>
      countsNeighbors (fun tile => W.tilePasses tile filter s.civ) params s
  | .neighborBothTiles =>
    match params[2]?, params[3]? with
    | some first, some second =>
      countsNeighbors
        (fun tile => W.tilePasses tile first s.civ && W.tilePasses tile second s.civ) params s
    | _, _ => false
  -- regions of the map
  | .waterMap => s.region.any fun region => region.continent == Region.waterMapContinent
  | .inRegion => params[0]?.any fun type => s.region.any fun region => region.type == type
  | .outsideRegion => params[0]?.any fun type => s.region.any fun region => region.type != type

end ConditionKind

end EffectText
