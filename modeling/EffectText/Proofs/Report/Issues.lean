import EffectText.Report.Audit

/-! # Issues

    Whatever the walk of an audit comes upon, it gives one warning and puts one finding into
    one of its lists. So what it comes upon is an **issue**, which has its warning, its list
    and its finding, and all issues together are one list (`auditIssues`).

    * `Walk.takeCondition_eq`, `Walk.takeStatement_eq`: a step of the walk adds the issues of
      what it comes to.
    * `auditWalk_eq`: the whole walk adds all issues, in the order of the audit.
    * `auditEvents_eq`, `findings_audit`: so the warnings are those of all issues, and each
      list of the report has the findings of its own.
-/

namespace EffectText

/-! ## Issues -/

/-- **Issue**: one thing that the audit found, in a statement. -/
inductive Issue where
  /-- The statement has no kind. -/
  | unrecognized (statement : Statement)
  /-- A condition of the statement has no kind. -/
  | unknownCondition (statement condition : Statement)
  /-- A condition of the statement names something that the ruleset lacks. -/
  | unknownReference (statement : Statement) (missing : MissingName)

/-- The issues of one condition of a statement. -/
def conditionIssues (ruleset : Ruleset) (statement condition : Statement) : List Issue :=
  match condition.kind with
  | none => [.unknownCondition statement condition]
  | some (.effect _) => []
  | some (.condition kind) =>
    match condition.params.head?.bind (ruleset.missing? kind) with
    | none => []
    | some missing => [.unknownReference statement missing]

/-- The issues of one statement: its own, then those of its conditions. -/
def Statement.issues (ruleset : Ruleset) (statement : Statement) : List Issue :=
  (if statement.kind.isNone then [.unrecognized statement] else []) ++
    statement.conditions.flatMap (conditionIssues ruleset statement)

/-- The issues of statements. -/
def auditIssues (statements : List Statement) (ruleset : Ruleset) : List Issue :=
  (auditOrder statements).flatMap (·.issues ruleset)

/-! ## Warnings and findings -/

/-- The lists of findings in a report. -/
inductive FindingList where
  | unrecognized
  | unknownConditions
  | unknownReferences
  deriving DecidableEq, Repr

/-- The findings of a report in one of its lists. -/
def Report.findings (report : Report) : FindingList → List Finding
  | .unrecognized => report.unrecognized
  | .unknownConditions => report.unknownConditions
  | .unknownReferences => report.unknownReferences

/-- The findings of a walk in one of its lists. -/
def Walk.findings (walk : Walk) : FindingList → List Finding
  | .unrecognized => walk.unrecognized
  | .unknownConditions => walk.unknownConditions
  | .unknownReferences => walk.unknownReferences

namespace Issue

/-- **Warning** about an issue. -/
def event : Issue → Event
  | .unrecognized statement => .unrecognizedStatement statement.text statement.sourceText
  | .unknownCondition statement condition =>
    .unrecognizedCondition condition.text statement.text statement.sourceText
  | .unknownReference statement missing =>
    .unknownReference missing.message statement.text statement.sourceText

/-- The list that has the finding about an issue. -/
def list : Issue → FindingList
  | .unrecognized _ => .unrecognized
  | .unknownCondition _ _ => .unknownConditions
  | .unknownReference _ _ => .unknownReferences

/-- The finding about an issue. -/
def finding : Issue → Finding
  | .unrecognized statement =>
    statement.finding s!"no effect matches pattern \"{statement.pattern}\""
  | .unknownCondition statement condition =>
    statement.finding s!"<{condition.text}> matches no condition"
  | .unknownReference statement missing => statement.finding missing.message

end Issue

/-! ## The walk adds issues -/

namespace Walk

/-- The walk with one issue more: its warning, and its finding in its list. -/
def add (walk : Walk) (issue : Issue) : Walk :=
  let walk := { walk with warnings := walk.warnings ++ [issue.event] }
  match issue.list with
  | .unrecognized => { walk with unrecognized := walk.unrecognized ++ [issue.finding] }
  | .unknownConditions =>
    { walk with unknownConditions := walk.unknownConditions ++ [issue.finding] }
  | .unknownReferences =>
    { walk with unknownReferences := walk.unknownReferences ++ [issue.finding] }

variable (ruleset : Ruleset) (walk : Walk)

/-- **Step**: a condition adds its issues. -/
theorem takeCondition_eq (statement condition : Statement) :
    walk.takeCondition ruleset statement condition =
      (conditionIssues ruleset statement condition).foldl add walk := by
  unfold takeCondition conditionIssues
  cases condition.kind with
  | none => rfl
  | some kind =>
    cases kind with
    | effect kind => rfl
    | condition kind =>
      dsimp only
      cases condition.params.head?.bind (ruleset.missing? kind) <;> rfl

/-- **Step**: a statement adds its issues, and its own comes before those of its
    conditions. -/
theorem takeStatement_eq (statement : Statement) :
    walk.takeStatement ruleset statement = (statement.issues ruleset).foldl add walk := by
  unfold takeStatement Statement.issues
  rw [List.foldl_append, List.foldl_flatMap]
  -- both sides go through the conditions now, after what the statement itself adds
  simp only [← takeCondition_eq]
  split <;> rfl

theorem warnings_add (issue : Issue) :
    (walk.add issue).warnings = walk.warnings ++ [issue.event] := by
  cases issue <;> rfl

theorem findings_add (issue : Issue) (list : FindingList) :
    (walk.add issue).findings list =
      walk.findings list ++ if issue.list = list then [issue.finding] else [] := by
  cases issue <;> cases list <;> simp [add, findings, Issue.list]

/-- **Run**: the warnings of issues that are added come in their order. -/
theorem warnings_foldl_add (issues : List Issue) :
    (issues.foldl add walk).warnings = walk.warnings ++ issues.map (·.event) := by
  induction issues generalizing walk with
  | nil => exact (List.append_nil _).symm
  | cons issue issues ih =>
    rw [List.foldl_cons, ih, warnings_add, List.append_assoc]
    rfl

/-- **Run**: the findings in each list come in the order of the issues. -/
theorem findings_foldl_add (issues : List Issue) (list : FindingList) :
    (issues.foldl add walk).findings list =
      walk.findings list ++ (issues.filter (·.list = list)).map (·.finding) := by
  induction issues generalizing walk with
  | nil => exact (List.append_nil _).symm
  | cons issue issues ih =>
    rw [List.foldl_cons, ih, findings_add, List.append_assoc]
    by_cases hlist : issue.list = list <;> simp [hlist]

end Walk

/-! ## Audits -/

section Audit

variable (statements : List Statement) (ruleset : Ruleset)

/-- The walk adds all issues, in the order of the audit. -/
theorem auditWalk_eq :
    auditWalk statements ruleset = (auditIssues statements ruleset).foldl Walk.add {} := by
  unfold auditWalk auditIssues
  rw [List.foldl_flatMap]
  simp only [← Walk.takeStatement_eq]

/-- The warnings are those about all issues, in the order of the audit. -/
theorem auditEvents_eq :
    auditEvents statements ruleset = (auditIssues statements ruleset).map (·.event) := by
  unfold auditEvents
  rw [auditWalk_eq, Walk.warnings_foldl_add]
  rfl

/-- Each list has the findings about its issues, in the order of the audit. -/
theorem findings_audit (list : FindingList) :
    (audit statements ruleset).findings list =
      ((auditIssues statements ruleset).filter (·.list = list)).map (·.finding) := by
  have hwalk : (audit statements ruleset).findings list =
      (auditWalk statements ruleset).findings list := by
    cases list <;> rfl
  rw [hwalk, auditWalk_eq, Walk.findings_foldl_add]
  cases list <;> rfl

end Audit

end EffectText
