import EffectText.World.Snapshot

/-! # A world of plain data

    Civilizations, cities, tiles, units and combatants that answer from their own
    fields. A filter is passed when it is listed; a tile lists filters that all may
    use and filters for the civilizations of a name.
-/

namespace EffectText.Plain

/-- A civilization. -/
structure Civ where
  name : String := ""
  ruleset : Ruleset := { name := "" }
  atWar : Bool := false
  happiness : Int := 0
  goldenAge : Bool := false
  era : Int := 0
  techs : List String := []
  policies : List String := []
  cities : Nat := 0
  capital : Option Int := none
  deriving Inhabited

mutual

/-- A tile, with the tiles around it and the unit on it. -/
structure Tile where
  filters : List String := []
  /-- Names of civilizations, with filters that they may use too. -/
  civFilters : List (String × String) := []
  continent : Int := 0
  neighbors : List Tile := []
  unit : Option Unit := none

/-- A unit, with the tile it stands on. -/
structure Unit where
  owner : String := ""
  filters : List String := []
  garrison : Bool := false
  tile : Tile

end

instance : Inhabited Tile := ⟨{}⟩

instance : Inhabited Unit := ⟨{ tile := {} }⟩

/-- A city. -/
structure City where
  name : String := ""
  specialists : Int := 0
  followers : Int := 0
  center : Tile := {}
  deriving Inhabited

/-- One side of a fight. -/
structure Combatant where
  categories : List String := []
  health : Int := 0
  civ : Civ := {}
  deriving Inhabited

/-- Whether a tile passes a filter, asked by a civilization or by nobody. -/
def Tile.passes (tile : Tile) (filter : String) (civ : Option Civ) : Bool :=
  tile.filters.contains filter ||
    civ.any fun civ => tile.civFilters.contains (civ.name, filter)

/-- **Plain world**: every object answers from its own fields. -/
def world : World where
  Civ := Civ
  City := City
  Tile := Tile
  Unit := Unit
  Combatant := Combatant
  civName := Civ.name
  ruleset := Civ.ruleset
  isAtWar := Civ.atWar
  happiness := Civ.happiness
  inGoldenAge := Civ.goldenAge
  eraNumber := Civ.era
  knowsTech := fun civ tech => civ.techs.contains tech
  hasAdopted := fun civ policy => civ.policies.contains policy
  cityCount := Civ.cities
  capitalContinent := Civ.capital
  cityName := City.name
  specialists := City.specialists
  followers := City.followers
  center := City.center
  tilePasses := Tile.passes
  continent := Tile.continent
  neighbors := Tile.neighbors
  unitOn := Tile.unit
  owner := Unit.owner
  unitPasses := fun unit filter => unit.filters.contains filter
  canGarrison := Unit.garrison
  tileOf := Unit.tile
  combatantPasses := fun combatant category => combatant.categories.contains category
  health := Combatant.health
  civOf := Combatant.civ

end EffectText.Plain
