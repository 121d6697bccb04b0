import EffectText.Data.Toml.Document
import EffectText.Definition.Basic

/-! # Ruleset definitions in TOML

    A ruleset definition is a table with the keys `name`, `eras`, `techs` and
    `policies`, of which only the name must be there. An era is a table with `name`
    and `era_number`, or an array of the two. Other keys mean nothing.
-/

namespace EffectText.Toml

/-- The value of a key, if the value is a table that has it. -/
def get? (v : Toml) (key : String) : Option Toml :=
  match v with
  | .table entries => entries.lookup key
  | _ => none

/-- The text, if the value is one. -/
def string? : Toml → Option String
  | .string s => some s
  | _ => none

/-- The integer, if the value is one that fits in thirty-two bits. -/
def int32? : Toml → Option Int
  | .integer n => if isInt32 n then some n else none
  | _ => none

/-- What `item?` makes of every item of an array, or of none where there is no
    value. -/
def list? (item? : Toml → Option α) : Option Toml → Option (List α)
  | none => some []
  | some (.array items) => items.mapM item?
  | some _ => none

/-- The era that a value describes. -/
def era? : Toml → Option Era
  | .array (name :: number :: _) => do
    return { name := ← name.string?, number := ← number.int32? }
  | v => do
    let name ← v.get? "name"
    let number ← v.get? "era_number"
    return { name := ← name.string?, number := ← number.int32? }

/-- The ruleset definition that a value describes. -/
def rulesetDefinition? (v : Toml) : Option RulesetDefinition := do
  return {
    name := ← (← v.get? "name").string?
    eras := ← list? era? (v.get? "eras")
    techs := ← list? string? (v.get? "techs")
    policies := ← list? string? (v.get? "policies") }

end EffectText.Toml

namespace EffectText

/-- **Reading** a ruleset definition from a TOML text. -/
def RulesetDefinition.ofToml? (text : String) : Option RulesetDefinition :=
  (Toml.ofText? text).bind Toml.rulesetDefinition?

end EffectText
