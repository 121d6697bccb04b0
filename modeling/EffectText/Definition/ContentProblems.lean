import EffectText.Definition.RulesetProblems

/-! # Problems of a content definition

    Objects are checked in the order in which they are written.

    * An object with a **blank** name is one problem, and nothing else is asked of
      it: neither of its name nor of its statements.
    * An object with the kind and name of an earlier one is a problem. Kinds are
      compared as they are written.
    * Every blank statement is a problem.
-/

namespace EffectText

open Text

/-- The problems of the statements of an object, counted from `start`. -/
def ObjectDefinition.statementProblems (object : ObjectDefinition) (start : Nat) :
    List String → List Problem
  | [] => []
  | statement :: rest =>
    let others := object.statementProblems (start + 1) rest
    if isBlankText statement then
      .blankStatement s!"{object.kind} '{object.name}' unique #{start}" :: others
    else others

namespace ContentDefinition

/-- The problems of objects, after objects with the kinds and names `earlier`. -/
def objectsProblems (earlier : List (String × String)) : List ObjectDefinition → List Problem
  | [] => []
  | object :: rest =>
    if isBlankText object.name then
      .blankName .object s!"kind '{object.kind}'" :: objectsProblems earlier rest
    else
      let key := (object.kind, object.name)
      let repeated :=
        if earlier.contains key then
          [.repeatedName .object s!"{object.kind}:{object.name}"]
        else []
      repeated ++ object.statementProblems 0 object.statements ++
        objectsProblems (key :: earlier) rest

/-- **Problems** of a content definition, in order. -/
def problems (definition : ContentDefinition) : List Problem :=
  objectsProblems [] definition.objects

end ContentDefinition

end EffectText
