/-! # Definitions

    What authors write in ruleset and content files, before anything is made of it.
    Names and statements are kept exactly as they are written.
-/

namespace EffectText

/-- **Era**: a name and a number that puts it in order. -/
structure Era where
  name : String
  number : Int
  deriving DecidableEq, Repr, Inhabited

/-- A ruleset as it is written: the eras, techs and policies that statements may
    refer to. -/
structure RulesetDefinition where
  name : String
  eras : List Era := []
  techs : List String := []
  policies : List String := []
  deriving DecidableEq, Repr, Inhabited

/-- A game object as it is written: what it is, its name, and its statements. -/
structure ObjectDefinition where
  kind : String
  name : String
  statements : List String := []
  deriving DecidableEq, Repr, Inhabited

/-- A content file as it is written: its objects, in order. -/
structure ContentDefinition where
  objects : List ObjectDefinition := []
  deriving DecidableEq, Repr, Inhabited

end EffectText
