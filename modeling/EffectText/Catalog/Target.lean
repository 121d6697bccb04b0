import EffectText.Text.Blank

/-! # What can declare a statement

    A **target** is a kind of game object that can carry statements. Authors name
    it in letters of either case, with blanks around it if they like.
-/

namespace EffectText

open Text

/-- **Target**: a kind of game object that can declare statements. -/
inductive Target where
  | global
  | nation
  | era
  | tech
  | policy
  | belief
  | building
  | unit
  | unitType
  | promotion
  | terrain
  | improvement
  | resource
  | ruins
  | triggerable
  /-- Not an object: marks the kinds of statement that are conditions. -/
  | conditional
  deriving DecidableEq, Repr, Inhabited

namespace Target

/-- Every target, in the order of the catalog. -/
def all : List Target :=
  [.global, .nation, .era, .tech, .policy, .belief, .building, .unit, .unitType, .promotion,
    .terrain, .improvement, .resource, .ruins, .triggerable, .conditional]

/-- The name of a target. -/
def name : Target → String
  | .global => "Global"
  | .nation => "Nation"
  | .era => "Era"
  | .tech => "Tech"
  | .policy => "Policy"
  | .belief => "Belief"
  | .building => "Building"
  | .unit => "Unit"
  | .unitType => "UnitType"
  | .promotion => "Promotion"
  | .terrain => "Terrain"
  | .improvement => "Improvement"
  | .resource => "Resource"
  | .ruins => "Ruins"
  | .triggerable => "Triggerable"
  | .conditional => "Conditional"

/-- The characters of a word with ASCII letters in lower case. -/
def lowered (word : List Char) : List Char := word.map Char.toLower

/-- The target that an author names: blanks around the name and the case of its
    ASCII letters do not matter. -/
def ofAuthored? (text : String) : Option Target :=
  let key := lowered (trim text.toList)
  all.find? fun target => lowered target.name.toList == key

/-- The target of exactly this name. -/
def ofName? (name : String) : Option Target := all.find? (·.name == name)

end Target

end EffectText
