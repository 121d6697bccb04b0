import EffectText.Proofs.Report.Order

/-! # Warnings and findings

    At every issue, the walk of an audit gives a warning and lists a finding, so the two grow
    side by side. A warning **tells** of a finding when both are about the same statement, source,
    and clause or missing name (`Event.Tells`). Its message then shows what the finding
    holds (`Finding.ShownBy`).

    * `audit_matches_its_warnings`: the warnings of an audit, split by what they are about,
      tell of the findings of the report one by one and in order.
-/

namespace EffectText

/-! ## What a warning tells of -/

/-- The list of a report that has the finding of a warning. -/
def Event.list? : Event → Option FindingList
  | .unrecognizedStatement .. => some .unrecognized
  | .unrecognizedCondition .. => some .unknownConditions
  | .unknownReference .. => some .unknownReferences
  | _ => none

/-- **Telling**: a warning and a finding are about the same thing. -/
inductive Event.Tells : Event → Finding → Prop where
  /-- The same statement and source. Only the finding has the pattern. -/
  | unrecognizedStatement (text source pattern : String) :
    Tells (.unrecognizedStatement text source)
      { source, text, detail := s!"no effect matches pattern \"{pattern}\"" }
  /-- The same statement, source and clause. -/
  | unrecognizedCondition (clause text source : String) :
    Tells (.unrecognizedCondition clause text source)
      { source, text, detail := s!"<{clause}> matches no condition" }
  /-- The same statement, source and detail. -/
  | unknownReference (detail text source : String) :
    Tells (.unknownReference detail text source) { source, text, detail }

/-- **Showing**: what a message says about a finding of a list. -/
def Finding.ShownBy (finding : Finding) (message : String) : FindingList → Prop
  | .unrecognized => message = s!"unrecognized unique \"{finding.text}\" on {finding.source}"
  | .unknownConditions =>
    ∃ clause : String, finding.detail = s!"<{clause}> matches no condition" ∧
      message =
        s!"unrecognized conditional <{clause}> in \"{finding.text}\" on {finding.source}"
  | .unknownReferences =>
    message = s!"{finding.detail} in \"{finding.text}\" on {finding.source}"

/-- The message of a warning shows the finding that the warning tells of. -/
theorem Event.Tells.shownBy {event : Event} {finding : Finding} (h : event.Tells finding)
    {list : FindingList} (hlist : event.list? = some list) :
    finding.ShownBy event.message list := by
  cases h <;> obtain rfl := Option.some.inj hlist
  case unrecognizedStatement => exact rfl
  case unrecognizedCondition clause text source => exact ⟨clause, rfl, rfl⟩
  case unknownReference => exact rfl

/-! ## Issues -/

namespace Issue

theorem level_event (issue : Issue) : issue.event.level = .warn := by
  cases issue <;> rfl

theorem component_event (issue : Issue) : issue.event.component = .report := by
  cases issue <;> rfl

theorem list?_event (issue : Issue) : issue.event.list? = some issue.list := by
  cases issue <;> rfl

/-- **Step**: the warning about an issue tells of the finding about it. -/
theorem tells (issue : Issue) : issue.event.Tells issue.finding := by
  cases issue with
  | unrecognized statement => exact .unrecognizedStatement _ _ _
  | unknownCondition statement condition => exact .unrecognizedCondition _ _ _
  | unknownReference statement missing => exact .unknownReference _ _ _

/-- Every issue goes into exactly one of the lists. -/
theorem length_eq_add (issues : List Issue) :
    issues.length =
      (issues.filter (·.list = .unrecognized)).length +
        (issues.filter (·.list = .unknownConditions)).length +
        (issues.filter (·.list = .unknownReferences)).length := by
  induction issues with
  | nil => rfl
  | cons issue issues ih =>
    rw [List.length_cons, ih]
    cases issue <;> simp [list] <;> omega

end Issue

/-! ## Audits -/

section Audit

variable (statements : List Statement) (ruleset : Ruleset)

/-- The warnings about one list are those of its issues, in the order of the audit. -/
theorem filter_auditEvents (list : FindingList) :
    (auditEvents statements ruleset).filter (·.list? = some list) =
      ((auditIssues statements ruleset).filter (·.list = list)).map (·.event) := by
  rw [auditEvents_eq, List.filter_map]
  congr 1
  apply List.filter_congr
  intro issue _
  simp [Issue.list?_event]

theorem length_auditEvents :
    (auditEvents statements ruleset).length = (audit statements ruleset).problemCount := by
  rw [Report.problemCount_eq]
  simp only [findings_audit, List.length_map]
  rw [← Issue.length_eq_add, auditEvents_eq, List.length_map]

end Audit

/-- A report **matches** warnings. -/
structure Report.Matches (report : Report) (warnings : List Event) : Prop where
  /-- All are warnings about reports. -/
  level : ∀ event ∈ warnings, event.level = .warn ∧ event.component = .report
  /-- Each is about something that goes into one of the lists. -/
  list : ∀ event ∈ warnings, event.list?.isSome
  /-- There are as many warnings as findings. -/
  length : warnings.length = report.problemCount
  /-- Those about one list tell of its findings, one by one and in order, and their messages
      show them. -/
  split : ∀ list : FindingList,
    List.Forall₂ (fun event finding => event.Tells finding ∧ finding.ShownBy event.message list)
      (warnings.filter (·.list? = some list)) (report.findings list)

/-- **Warnings match.** For all statements and rulesets, the report of an audit matches the
    warnings that the audit gives. -/
theorem audit_matches_its_warnings (statements : List Statement) (ruleset : Ruleset) :
    (audit statements ruleset).Matches (auditEvents statements ruleset) := by
  have hissue : ∀ event ∈ auditEvents statements ruleset, ∃ issue : Issue, issue.event = event := by
    intro event hevent
    rw [auditEvents_eq] at hevent
    obtain ⟨issue, -, heq⟩ := List.mem_map.mp hevent
    exact ⟨issue, heq⟩
  constructor
  case level =>
    intro event hevent
    obtain ⟨issue, rfl⟩ := hissue event hevent
    exact ⟨issue.level_event, issue.component_event⟩
  case list =>
    intro event hevent
    obtain ⟨issue, rfl⟩ := hissue event hevent
    rw [issue.list?_event, Option.isSome_some]
  case length => exact length_auditEvents statements ruleset
  case split =>
    intro list
    rw [filter_auditEvents, findings_audit, List.forall₂_map_left_iff, List.forall₂_map_right_iff,
      List.forall₂_same]
    intro issue hissue
    have hlist : issue.list = list := of_decide_eq_true (List.mem_filter.mp hissue).2
    exact ⟨issue.tells, issue.tells.shownBy (hlist ▸ issue.list?_event)⟩

end EffectText
