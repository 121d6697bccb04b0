import EffectText.Definition.Basic

/-! # Rulesets

    A **ruleset** answers what conditions ask of it: the number of an era, and
    whether a tech or policy is known. A ruleset has at most one era of each name:
    the era that was added last.
-/

namespace EffectText

/-- **Ruleset**: the eras, techs and policies that conditions refer to. -/
structure Ruleset where
  name : String
  /-- The eras, no two of one name. -/
  eras : List Era := []
  /-- The techs, none twice. -/
  techs : List String := []
  /-- The policies, none twice. -/
  policies : List String := []
  deriving DecidableEq, Repr, Inhabited

namespace Ruleset

/-! ## Eras -/

/-- Adds an era, in place of one that has its name. -/
def addEra (ruleset : Ruleset) (era : Era) : Ruleset :=
  { ruleset with eras := ruleset.eras.filter (·.name != era.name) ++ [era] }

/-- The number of the era of a name. -/
def eraNumber? (ruleset : Ruleset) (name : String) : Option Int :=
  (ruleset.eras.find? (·.name == name)).map (·.number)

theorem eraNumber?_addEra_self (ruleset : Ruleset) (era : Era) :
    (ruleset.addEra era).eraNumber? era.name = some era.number := by
  have hnone : (ruleset.eras.filter (·.name != era.name)).find? (·.name == era.name) = none := by
    simp only [List.find?_eq_none, List.mem_filter, bne_iff_ne, ne_eq, beq_iff_eq]
    exact fun _ h => h.2
  simp [addEra, eraNumber?, List.find?_append, hnone]

theorem eraNumber?_addEra_ne (ruleset : Ruleset) (era : Era) (name : String)
    (h : name ≠ era.name) : (ruleset.addEra era).eraNumber? name = ruleset.eraNumber? name := by
  have hlast : [era].find? (·.name == name) = none := by
    simpa using Ne.symm h
  have hkept : (ruleset.eras.filter (·.name != era.name)).find? (·.name == name) =
      ruleset.eras.find? (·.name == name) := by
    rw [List.find?_filter]
    congr 1
    funext e
    by_cases he : e.name = name
    · simp [he, h]
    · simp [he]
  simp only [addEra, eraNumber?, List.find?_append, hkept, hlast, Option.or_none]

/-! ## Techs and policies -/

/-- Whether the ruleset has a tech. -/
def hasTech (ruleset : Ruleset) (name : String) : Bool := ruleset.techs.contains name

/-- Whether the ruleset has a policy. -/
def hasPolicy (ruleset : Ruleset) (name : String) : Bool := ruleset.policies.contains name

/-- Names without repetition, each where it stands first. -/
def distinct (names : List String) : List String :=
  names.foldl (fun kept name => if kept.contains name then kept else kept ++ [name]) []

/-! ## From a definition -/

/-- The ruleset that a definition describes. -/
def ofDefinition (definition : RulesetDefinition) : Ruleset :=
  let empty : Ruleset :=
    { name := definition.name
      techs := distinct definition.techs
      policies := distinct definition.policies }
  definition.eras.foldl addEra empty

end Ruleset

end EffectText
