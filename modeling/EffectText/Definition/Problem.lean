/-! # Problems of a definition

    What can be wrong with a definition that could be read: names that are blank or
    used twice, era numbers used twice, statements that are blank.
-/

namespace EffectText

/-- What carries the name that is wrong. -/
inductive Named where
  | era
  | tech
  | policy
  | object
  deriving DecidableEq, Repr, Inhabited

/-- The word for what carries a name. -/
def Named.word : Named → String
  | .era => "era"
  | .tech => "tech"
  | .policy => "policy"
  | .object => "object"

/-- **Problem**: one thing that is wrong with a definition. -/
inductive Problem where
  /-- A name that something of the same kind had before. -/
  | repeatedName (named : Named) (name : String)
  /-- Two eras with one number. -/
  | sharedEraNumber (number : Int) (first second : String)
  /-- A name with nothing but blanks, and where it stands. -/
  | blankName (named : Named) (place : String)
  /-- A statement with nothing but blanks, and where it stands. -/
  | blankStatement (place : String)
  deriving DecidableEq, Repr, Inhabited

/-- The message for a problem. -/
def Problem.message : Problem → String
  | .repeatedName named name => s!"duplicate {named.word} '{name}'"
  | .sharedEraNumber number first second =>
    s!"eras '{first}' and '{second}' share era number {number}"
  | .blankName named place => s!"empty {named.word} name ({place})"
  | .blankStatement place => s!"empty unique text ({place})"

end EffectText
