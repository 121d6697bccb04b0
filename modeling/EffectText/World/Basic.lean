import EffectText.Ruleset

/-! # Worlds

    The game itself stays outside this library. A **world** is what conditions can
    see of one: types of civilizations, cities, tiles, units and combatants, and the
    questions that can be asked of them.

    Tile, unit and combatant **filters** are words that only the world understands.
-/

namespace EffectText

/-- **World**: the objects of a game and what can be asked of them. -/
structure World where
  Civ : Type
  City : Type
  Tile : Type
  Unit : Type
  Combatant : Type
  -- civilizations
  civName : Civ → String
  ruleset : Civ → Ruleset
  isAtWar : Civ → Bool
  /-- The happiness expected for the next turn. -/
  happiness : Civ → Int
  inGoldenAge : Civ → Bool
  eraNumber : Civ → Int
  knowsTech : Civ → String → Bool
  hasAdopted : Civ → String → Bool
  cityCount : Civ → Nat
  /-- The continent of the capital, if there is a capital. -/
  capitalContinent : Civ → Option Int
  -- cities
  cityName : City → String
  specialists : City → Int
  /-- The followers of the religion that most of the city follows. -/
  followers : City → Int
  center : City → Tile
  -- tiles
  /-- Whether a tile passes a filter, asked by a civilization or by nobody. -/
  tilePasses : Tile → String → Option Civ → Bool
  continent : Tile → Int
  neighbors : Tile → List Tile
  /-- The military unit on a tile. -/
  unitOn : Tile → Option Unit
  -- units
  /-- The name of the civilization that a unit belongs to. -/
  owner : Unit → String
  unitPasses : Unit → String → Bool
  canGarrison : Unit → Bool
  tileOf : Unit → Tile
  -- combatants: units and cities in a fight
  combatantPasses : Combatant → String → Bool
  health : Combatant → Int
  civOf : Combatant → Civ

end EffectText
