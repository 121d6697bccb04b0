import EffectText.Definition.Basic
import EffectText.Definition.Problem
import EffectText.Text.Blank

/-! # Problems of a ruleset definition

    Eras are checked first, then techs, then policies, each in the order in which
    they are written.

    * A **blank** name is one problem, and nothing else is asked of that entry.
    * A name that an earlier entry has is a problem.
    * An era number that an earlier era has is a problem; the closest such era is
      the one that is named.
-/

namespace EffectText

open Text

/-- A name or statement with nothing but blanks. -/
def isBlankText (s : String) : Bool := allBlank s.toList

namespace RulesetDefinition

/-- The problems of one era that is not blank, after the eras `earlier`, the
    closest first. -/
def eraProblems (earlier : List Era) (era : Era) : List Problem :=
  let repeated :=
    if earlier.any (·.name == era.name) then [.repeatedName .era era.name] else []
  let shared :=
    match earlier.find? (·.number == era.number) with
    | some first => [.sharedEraNumber era.number first.name era.name]
    | none => []
  repeated ++ shared

/-- The problems of eras, after the eras `earlier` that are not blank, the closest
    first. -/
def erasProblems (earlier : List Era) : List Era → List Problem
  | [] => []
  | era :: rest =>
    if isBlankText era.name then
      .blankName .era s!"era number {era.number}" :: erasProblems earlier rest
    else eraProblems earlier era ++ erasProblems (era :: earlier) rest

/-- The problems of a list of names, after the names `earlier`. -/
def namesProblems (named : Named) (earlier : List String) : List String → List Problem
  | [] => []
  | name :: rest =>
    if isBlankText name then
      .blankName named s!"{named.word} list" :: namesProblems named earlier rest
    else if earlier.contains name then
      .repeatedName named name :: namesProblems named earlier rest
    else namesProblems named (name :: earlier) rest

/-- **Problems** of a ruleset definition, in order. -/
def problems (definition : RulesetDefinition) : List Problem :=
  erasProblems [] definition.eras ++ namesProblems .tech [] definition.techs ++
    namesProblems .policy [] definition.policies

end RulesetDefinition

end EffectText
