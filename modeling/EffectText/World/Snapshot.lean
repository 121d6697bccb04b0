import EffectText.Text.Quoted
import EffectText.World.Basic

/-! # Snapshots

    A **snapshot** says what an evaluation is about: whose turn, which city, which
    fight, which tile. Every part may be missing, and no part implies another.
-/

namespace EffectText

/-- The side of a fight that an evaluation is for. -/
inductive CombatSide where
  | attack
  | defend
  deriving DecidableEq, Repr, Inhabited

namespace CombatSide

/-- Both sides. -/
def all : List CombatSide := [.attack, .defend]

/-- The name of a side. -/
def name : CombatSide → String
  | .attack => "Attack"
  | .defend => "Defend"

/-- The side of exactly this name. -/
def ofName? (name : String) : Option CombatSide := all.find? (·.name == name)

end CombatSide

/-- **Region** of a map: its type and the continent it lies on. -/
structure Region where
  type : String
  continent : Int
  deriving DecidableEq, Repr, Inhabited

/-- The continent of every region on a map that is all water. -/
def Region.waterMapContinent : Int := -1

/-- **Snapshot**: what an evaluation is about. -/
structure Snapshot (W : World) where
  /-- The civilization that asks. -/
  civ : Option W.Civ := none
  city : Option W.City := none
  ourCombatant : Option W.Combatant := none
  theirCombatant : Option W.Combatant := none
  unit : Option W.Unit := none
  attackedTile : Option W.Tile := none
  combatSide : Option CombatSide := none
  region : Option Region := none

namespace Snapshot

variable {W : World}

/-! ## Building -/

/-- The snapshot with nothing in it. -/
def empty : Snapshot W := {}

instance : Inhabited (Snapshot W) := ⟨empty⟩

/-- The snapshot of a civilization and a city, and nothing else. -/
def ofCivAndCity (civ : Option W.Civ) (city : Option W.City) : Snapshot W := { civ, city }

def withCiv (s : Snapshot W) (civ : W.Civ) : Snapshot W := { s with civ := some civ }

def withCity (s : Snapshot W) (city : W.City) : Snapshot W := { s with city := some city }

/-- Sets both combatants and the side that is ours. Without an opponent, an earlier
    one is forgotten. -/
def withCombat (s : Snapshot W) (ours : W.Combatant) (theirs : Option W.Combatant)
    (side : CombatSide) : Snapshot W :=
  { s with ourCombatant := some ours, theirCombatant := theirs, combatSide := some side }

def withUnit (s : Snapshot W) (unit : W.Unit) : Snapshot W := { s with unit := some unit }

def withAttackedTile (s : Snapshot W) (tile : W.Tile) : Snapshot W :=
  { s with attackedTile := some tile }

def withRegion (s : Snapshot W) (region : Region) : Snapshot W :=
  { s with region := some region }

/-! ## Asking -/

/-- **Relevant tile**: the tile under attack, or else the tile of the unit. -/
def relevantTile (s : Snapshot W) : Option W.Tile :=
  s.attackedTile <|> s.unit.map W.tileOf

/-- The continent of the relevant tile. -/
def relevantContinent (s : Snapshot W) : Option Int := s.relevantTile.map W.continent

/-! ## Describing -/

/-- An optional part of a description. -/
def describeOption (text : Option String) : String :=
  match text with
  | none => "None"
  | some text => "Some(" ++ text ++ ")"

/-- A region in a description. -/
def describeRegion (region : Region) : String :=
  "Region \x7b region_type: " ++ Text.quoted region.type ++ ", continent_id: " ++
    toString region.continent ++ " \x7d"

/-- **Description** of a snapshot: the names of its civilization, city and unit's
    owner, whether it has combatants and an attacked tile, its side and region. -/
def describe (s : Snapshot W) : String :=
  let fields : List (String × String) :=
    [("civ", describeOption (s.civ.map fun civ => Text.quoted (W.civName civ))),
      ("city", describeOption (s.city.map fun city => Text.quoted (W.cityName city))),
      ("our_combatant", toString s.ourCombatant.isSome),
      ("their_combatant", toString s.theirCombatant.isSome),
      ("unit", describeOption (s.unit.map fun unit => Text.quoted (W.owner unit))),
      ("attacked_tile", toString s.attackedTile.isSome),
      ("combat_action", describeOption (s.combatSide.map CombatSide.name)),
      ("region", describeOption (s.region.map describeRegion))]
  "StateForConditionals \x7b " ++
    ", ".intercalate (fields.map fun (name, text) => name ++ ": " ++ text) ++ " \x7d"

end Snapshot

end EffectText
