import EffectText.Proofs.Report.Findings

/-! # Reports and the order of statements

    The audit takes statements group by group, so a statement that moves may move whole
    groups of others. What it finds in a statement depends on this statement alone
    (`auditIssues_perm`). So the order shows in a report only as the order of its lists,
    and the report about two lists together adds up from the reports about each.

    * `audit_up_to_order`: audits of the same statements in another order, and of the
      statements of two lists.
-/

namespace EffectText

/-! ## The numbers of a report -/

/-- How many statements of a kind a report counts. -/
def Report.countOf (report : Report) (kind : Kind) : Nat :=
  (report.kindCounts.lookup kind).getD 0

theorem Report.problemCount_eq (report : Report) :
    report.problemCount =
      (report.findings .unrecognized).length + (report.findings .unknownConditions).length +
        (report.findings .unknownReferences).length := rfl

/-! ## What an audit counts and finds -/

section Audit

variable (statements : List Statement) (ruleset : Ruleset)

/-- The audit has the issues of every statement once. -/
theorem auditIssues_perm :
    (auditIssues statements ruleset).Perm (statements.flatMap (·.issues ruleset)) :=
  (auditOrder_perm statements).flatMap_right _

/-- Each list has the findings about every statement once. -/
theorem findings_audit_perm (list : FindingList) :
    ((audit statements ruleset).findings list).Perm
      (((statements.flatMap (·.issues ruleset)).filter (·.list = list)).map (·.finding)) := by
  rw [findings_audit]
  exact ((auditIssues_perm statements ruleset).filter _).map _

/-- The patterns are as many as the statements have different ones. -/
theorem distinctPatterns_audit :
    (audit statements ruleset).distinctPatterns =
      (statements.map (·.pattern)).toFinset.card := by
  have h : (Index.ofList statements : ByPattern id).Groups _ := Index.groups_ofList statements
  rw [filter_patternKey] at h
  show (Index.ofList statements : ByPattern id).groupCount = _
  rw [h.groupCount, ← List.filterMap_eq_map]
  rfl

/-- The kinds are counted in the order in which they come first. -/
theorem kindCounts_audit :
    (audit statements ruleset).kindCounts =
      (statements.filterMap (·.kind)).eraseDups.map fun kind =>
        (kind, statements.countP (·.kind = some kind)) :=
  Index.counts_ofList statements

theorem countOf_audit (kind : Kind) :
    (audit statements ruleset).countOf kind = statements.countP (·.kind = some kind) := by
  unfold Report.countOf
  rw [kindCounts_audit]
  by_cases hkind : kind ∈ statements.filterMap (·.kind)
  · rw [List.lookup_graph _ (List.mem_eraseDups.mpr hkind), Option.getD_some]
  · -- a kind that is not listed has no statements
    have hzero : statements.countP (·.kind = some kind) = 0 := by
      simpa [List.mem_filterMap] using hkind
    have hnone : (((statements.filterMap (·.kind)).eraseDups.map fun kind =>
        (kind, statements.countP (·.kind = some kind))).lookup kind) = none := by
      rw [List.lookup_eq_none_iff, List.forall_mem_map]
      intro other hother
      rw [bne_iff_ne]
      exact (ne_of_mem_of_not_mem (List.mem_eraseDups.mp hother) hkind).symm
    rw [hnone, hzero, Option.getD_none]

end Audit

/-! ## Reports up to order -/

namespace Report

/-- **Up to order**, two reports say the same. -/
structure SameUpToOrder (report other : Report) : Prop where
  total : report.total = other.total
  recognized : report.recognized = other.recognized
  distinctPatterns : report.distinctPatterns = other.distinctPatterns
  problemCount : report.problemCount = other.problemCount
  isClean : report.isClean = other.isClean
  /-- Every kind has the same count. -/
  countOf : ∀ kind : Kind, report.countOf kind = other.countOf kind
  /-- The same kinds are listed with their counts. -/
  kindCounts : report.kindCounts.Perm other.kindCounts
  /-- Each list has the same findings. -/
  findings : ∀ list : FindingList, (report.findings list).Perm (other.findings list)

/-- A report **adds up** from two others. -/
structure AddsUp (report left right : Report) : Prop where
  total : report.total = left.total + right.total
  recognized : report.recognized = left.recognized + right.recognized
  /-- Every kind has the counts of both. -/
  countOf : ∀ kind : Kind, report.countOf kind = left.countOf kind + right.countOf kind
  /-- Each list has the findings of both. -/
  findings : ∀ list : FindingList,
    (report.findings list).Perm (left.findings list ++ right.findings list)

/-- Lists with the same findings are equally long. -/
theorem problemCount_eq_of_perm {report other : Report}
    (h : ∀ list : FindingList, (report.findings list).Perm (other.findings list)) :
    report.problemCount = other.problemCount := by
  simp only [problemCount_eq, (h _).length_eq]

theorem isClean_eq_of_problemCount_eq {report other : Report}
    (h : report.problemCount = other.problemCount) : report.isClean = other.isClean := by
  rw [Bool.eq_iff_iff, isClean_iff, isClean_iff, h]

end Report

/-- An audit of the same statements in another order says the same up to order. -/
theorem sameUpToOrder_audit {statements others : List Statement} (h : statements.Perm others)
    (ruleset : Ruleset) : (audit statements ruleset).SameUpToOrder (audit others ruleset) := by
  have hfindings : ∀ list, ((audit statements ruleset).findings list).Perm
      ((audit others ruleset).findings list) := by
    intro list
    calc
      List.Perm ((audit statements ruleset).findings list) _ :=
        findings_audit_perm statements ruleset list
      List.Perm _ _ := ((h.flatMap_right _).filter _).map _
      List.Perm _ ((audit others ruleset).findings list) :=
        (findings_audit_perm others ruleset list).symm
  have hproblems := Report.problemCount_eq_of_perm hfindings
  constructor
  case total => exact h.length_eq
  case recognized =>
    rw [recognized_audit, recognized_audit]
    exact h.countP_eq _
  case distinctPatterns =>
    rw [distinctPatterns_audit, distinctPatterns_audit, List.toFinset_eq_of_perm _ _ (h.map _)]
  case problemCount => exact hproblems
  case isClean => exact Report.isClean_eq_of_problemCount_eq hproblems
  case countOf =>
    intro kind
    rw [countOf_audit, countOf_audit]
    exact h.countP_eq _
  case kindCounts =>
    simp only [kindCounts_audit, h.countP_eq]
    exact (eraseDups_perm (h.filterMap _)).map _
  case findings => exact hfindings

/-- An audit of the statements of two lists adds up from the audits of the lists. -/
theorem addsUp_audit (statements others : List Statement) (ruleset : Ruleset) :
    (audit (statements ++ others) ruleset).AddsUp (audit statements ruleset)
      (audit others ruleset) := by
  constructor
  case total => exact List.length_append
  case recognized =>
    rw [recognized_audit, recognized_audit, recognized_audit]
    exact List.countP_append
  case countOf =>
    intro kind
    rw [countOf_audit, countOf_audit, countOf_audit]
    exact List.countP_append
  case findings =>
    intro list
    calc
      List.Perm ((audit (statements ++ others) ruleset).findings list) _ :=
        findings_audit_perm (statements ++ others) ruleset list
      _ = _ := by rw [List.flatMap_append, List.filter_append, List.map_append]
      List.Perm _ ((audit statements ruleset).findings list ++
          (audit others ruleset).findings list) :=
        ((findings_audit_perm statements ruleset list).append
          (findings_audit_perm others ruleset list)).symm

/-- **Order.** For every ruleset, audits of the same statements in any two orders agree in
    all numbers, in what they count of every kind, and up to order in each list of
    findings. An audit of two lists together has the numbers, the counts and the findings
    of both. -/
theorem audit_up_to_order (ruleset : Ruleset) :
    (∀ statements others : List Statement, statements.Perm others →
      (audit statements ruleset).SameUpToOrder (audit others ruleset)) ∧
    ∀ statements others : List Statement,
      (audit (statements ++ others) ruleset).AddsUp (audit statements ruleset)
        (audit others ruleset) :=
  ⟨fun _ _ h => sameUpToOrder_audit h ruleset, fun _ _ => addsUp_audit _ _ ruleset⟩

/-- Two statements with one pattern around one with another: their group comes first in one
    order and last in the other. -/
theorem audit_up_to_order_regrouped :
    let gold := Statement.effect "[+1 Gold] <Unbuildable>"
    let pony := Statement.effect "Grants a pony"
    let food := Statement.effect "[+2 Food] <before the [Space era]>"
    let ruleset : Ruleset := { name := "Ours" }
    [gold, pony, food].Perm [pony, food, gold] ∧
    (audit [gold, pony, food] ruleset).SameUpToOrder (audit [pony, food, gold] ruleset) := by
  intro gold pony food ruleset
  have hperm : [gold, pony, food].Perm [pony, food, gold] :=
    (List.perm_append_singleton gold [pony, food]).symm
  obtain ⟨hsame, -⟩ := audit_up_to_order ruleset
  exact ⟨hperm, hsame _ _ hperm⟩

end EffectText
