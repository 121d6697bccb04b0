import EffectText.Index
import EffectText.Ruleset

/-! # Auditing statements

    An **audit** goes through statements and lists what their author would want to
    mend:

    * statements that the catalog does not know;
    * conditions that the catalog does not know;
    * conditions that name an era, tech or policy that the ruleset lacks. Techs and
      policies are only checked against a ruleset that lists some.

    Statements are taken group by group, by pattern. Whatever the **walk** through them
    comes upon, it warns of and lists.
-/

namespace EffectText

/-! ## Missing names -/

/-- A name that a condition refers to and the ruleset lacks. -/
inductive MissingName where
  | era (name : String)
  | tech (name : String)
  | policy (name : String)
  deriving DecidableEq, Repr, Inhabited

/-- The text of a missing name. -/
def MissingName.message : MissingName → String
  | .era name => s!"unknown era '{name}'"
  | .tech name => s!"unknown tech '{name}'"
  | .policy name => s!"unknown policy '{name}'"

/-- The name in the first parameter of a kind of condition, if the kind refers to the
    ruleset and the ruleset lacks the name. -/
def Ruleset.missing? (ruleset : Ruleset) (kind : ConditionKind) (name : String) :
    Option MissingName :=
  match kind with
  | .beforeEra | .fromEra | .duringEra =>
    if (ruleset.eraNumber? name).isNone then some (.era name) else none
  | .techKnown | .techUnknown =>
    if !ruleset.techs.isEmpty && !ruleset.hasTech name then some (.tech name) else none
  | .policyAdopted | .policyNotAdopted =>
    if !ruleset.policies.isEmpty && !ruleset.hasPolicy name then some (.policy name) else none
  | _ => none

/-! ## Reports -/

/-- **Finding**: an issue as a report shows it. -/
structure Finding where
  source : String
  text : String
  detail : String
  deriving DecidableEq, Repr, Inhabited

/-- The finding about a statement, with a detail. -/
def Statement.finding (statement : Statement) (detail : String) : Finding :=
  { source := statement.sourceText, text := statement.text, detail }

/-- **Report** of an audit. -/
structure Report where
  /-- The name of the ruleset. -/
  ruleset : String
  /-- How many statements there are. -/
  total : Nat
  /-- How many of them have a kind. -/
  recognized : Nat
  /-- How many patterns they have. -/
  distinctPatterns : Nat
  /-- How many statements each kind has, in the order of first occurrence. -/
  kindCounts : List (Kind × Nat)
  unrecognized : List Finding
  unknownConditions : List Finding
  unknownReferences : List Finding
  deriving DecidableEq, Repr, Inhabited

namespace Report

/-- The number of findings. -/
def problemCount (report : Report) : Nat :=
  report.unrecognized.length + report.unknownConditions.length +
    report.unknownReferences.length

/-- Whether there are no findings. -/
def isClean (report : Report) : Bool :=
  report.unrecognized.isEmpty && report.unknownConditions.isEmpty &&
    report.unknownReferences.isEmpty

end Report

/-! ## The walk -/

/-- **Walk** through statements: the warnings given and the findings listed so far. -/
structure Walk where
  warnings : List Event := []
  unrecognized : List Finding := []
  unknownConditions : List Finding := []
  unknownReferences : List Finding := []

namespace Walk

/-- The walk comes to a condition of a statement. -/
def takeCondition (ruleset : Ruleset) (statement : Statement) (walk : Walk)
    (condition : Statement) : Walk :=
  match condition.kind with
  | none =>
    { walk with
      warnings := walk.warnings ++
        [.unrecognizedCondition condition.text statement.text statement.sourceText]
      unknownConditions := walk.unknownConditions ++
        [statement.finding s!"<{condition.text}> matches no condition"] }
  | some (.effect _) => walk
  | some (.condition kind) =>
    match condition.params.head?.bind (ruleset.missing? kind) with
    | none => walk
    | some missing =>
      { walk with
        warnings := walk.warnings ++
          [.unknownReference missing.message statement.text statement.sourceText]
        unknownReferences := walk.unknownReferences ++ [statement.finding missing.message] }

/-- The walk comes to a statement, and then to its conditions. -/
def takeStatement (ruleset : Ruleset) (walk : Walk) (statement : Statement) : Walk :=
  let walk :=
    if statement.kind.isNone then
      { walk with
        warnings := walk.warnings ++
          [.unrecognizedStatement statement.text statement.sourceText]
        unrecognized := walk.unrecognized ++
          [statement.finding s!"no effect matches pattern \"{statement.pattern}\""] }
    else walk
  statement.conditions.foldl (takeCondition ruleset statement) walk

end Walk

/-- The statements in the order in which the audit takes them: grouped by pattern. -/
def auditOrder (statements : List Statement) : List Statement :=
  (Index.ofList statements : ByPattern id).toList

/-- The walk of an audit, at its end. -/
def auditWalk (statements : List Statement) (ruleset : Ruleset) : Walk :=
  (auditOrder statements).foldl (Walk.takeStatement ruleset) {}

/-! ## The audit -/

/-- **Audit** of statements against the catalog and a ruleset. -/
def audit (statements : List Statement) (ruleset : Ruleset) : Report :=
  let byPattern : ByPattern id := .ofList statements
  let byKind : ByKind id := .ofList statements
  let walk := auditWalk statements ruleset
  { ruleset := ruleset.name
    total := statements.length
    recognized := byKind.size
    distinctPatterns := byPattern.groupCount
    kindCounts := byKind.counts
    unrecognized := walk.unrecognized
    unknownConditions := walk.unknownConditions
    unknownReferences := walk.unknownReferences }

/-- **Warnings** of the audit, in order. -/
def auditEvents (statements : List Statement) (ruleset : Ruleset) : List Event :=
  (auditWalk statements ruleset).warnings

end EffectText
