import EffectText.Proofs.Report.Findings
import EffectText.Proofs.Statement.Verdict

/-! # Findings mean dead effects

    What the audit finds in the conditions of a statement keeps the statement from
    applying. A condition without a kind is false everywhere, and a condition that names an
    era is false wherever the era is unknown.

    A finding shows the text of its statement, and the text decides the conditions. So a
    finding tells of every statement with this text, whichever of them it was made for.

    * `Report.findings_are_dead_effects`: unknown conditions and unknown eras.
-/

namespace EffectText

variable {W : World}

/-! ## What a finding was made for -/

theorem mem_clausesOf {statements : List Statement} {statement condition : Statement} :
    (statement, condition) ∈ clausesOf statements ↔
      statement ∈ statements ∧ condition ∈ statement.conditions := by
  unfold clausesOf
  simp [List.mem_flatMap]

/-- Clauses that the audit takes are clauses of the audited statements. -/
theorem mem_clausesOf_auditOrder {statements : List Statement} {statement condition : Statement} :
    (statement, condition) ∈ clausesOf (auditOrder statements) ↔
      statement ∈ statements ∧ condition ∈ statement.conditions := by
  rw [mem_clausesOf, (auditOrder_perm statements).mem_iff]

theorem mem_unknownConditions_iff {statements : List Statement} {ruleset : Ruleset}
    {finding : Finding} :
    finding ∈ (audit statements ruleset).unknownConditions ↔
      ∃ statement ∈ statements, ∃ condition ∈ statement.conditions, condition.kind = none ∧
        finding = statement.finding s!"<{condition.text}> matches no condition" := by
  rw [unknownConditions_audit, List.mem_map]
  constructor
  · rintro ⟨⟨statement, condition⟩, hmem, rfl⟩
    obtain ⟨hclause, hkind⟩ := List.mem_filter.mp hmem
    obtain ⟨hstatement, hcondition⟩ := mem_clausesOf_auditOrder.mp hclause
    exact ⟨statement, hstatement, condition, hcondition, Option.isNone_iff_eq_none.mp hkind, rfl⟩
  · rintro ⟨statement, hstatement, condition, hcondition, hkind, rfl⟩
    refine ⟨(statement, condition), List.mem_filter.mpr ⟨?_, ?_⟩, rfl⟩
    · exact mem_clausesOf_auditOrder.mpr ⟨hstatement, hcondition⟩
    · exact Option.isNone_iff_eq_none.mpr hkind

theorem mem_unknownReferences_iff {statements : List Statement} {ruleset : Ruleset}
    {finding : Finding} :
    finding ∈ (audit statements ruleset).unknownReferences ↔
      ∃ statement ∈ statements, ∃ condition ∈ statement.conditions, ∃ missing,
        condition.Names missing ∧ ruleset.Lacks missing ∧
          finding = statement.finding missing.message := by
  rw [unknownReferences_audit, List.mem_filterMap]
  constructor
  · rintro ⟨⟨statement, condition⟩, hclause, hfinding⟩
    obtain ⟨hstatement, hcondition⟩ := mem_clausesOf_auditOrder.mp hclause
    obtain ⟨missing, hmissing, rfl⟩ := Option.map_eq_some_iff.mp hfinding
    obtain ⟨hnames, hlacks⟩ := Statement.missing?_eq_some_iff.mp hmissing
    exact ⟨statement, hstatement, condition, hcondition, missing, hnames, hlacks, rfl⟩
  · rintro ⟨statement, hstatement, condition, hcondition, missing, hnames, hlacks, rfl⟩
    refine ⟨(statement, condition), mem_clausesOf_auditOrder.mpr ⟨hstatement, hcondition⟩, ?_⟩
    exact Option.map_eq_some_iff.mpr
      ⟨missing, Statement.missing?_eq_some_iff.mpr ⟨hnames, hlacks⟩, rfl⟩

/-! ## Messages about missing names -/

namespace MissingName

/-- What the message says before the name. -/
def lead : MissingName → String
  | .era _ => "unknown era '"
  | .tech _ => "unknown tech '"
  | .policy _ => "unknown policy '"

/-- The letter in which the leads differ. -/
def initial : MissingName → Char
  | .era _ => 'e'
  | .tech _ => 't'
  | .policy _ => 'p'

theorem message_eq (missing : MissingName) :
    missing.message = missing.lead ++ (missing.name ++ "'") := by
  cases missing <;> exact String.append_assoc

theorem getElem?_toList_message (missing : MissingName) :
    missing.message.toList[8]? = some missing.initial := by
  have hlong : 8 < missing.lead.toList.length := by cases missing <;> simp [lead]
  rw [message_eq, String.toList_append, List.getElem?_append_left hlong]
  cases missing <;> simp [lead, initial]

/-- A message tells what is missing. -/
theorem message_injective : Function.Injective message := by
  intro missing other h
  have hinitial : missing.initial = other.initial := by
    rw [← Option.some_inj, ← getElem?_toList_message, ← getElem?_toList_message, h]
  rw [message_eq, message_eq] at h
  cases missing <;> cases other
  case era.era | tech.tech | policy.policy =>
    have hname := (String.append_left_inj _).mp ((String.append_right_inj _).mp h)
    exact congrArg _ hname
  all_goals simp [initial] at hinitial

end MissingName

/-! ## Unknown eras -/

/-- Two rulesets **have the same eras** if every name has the same number in both, or in
    neither. -/
def Ruleset.SameEras (ruleset other : Ruleset) : Prop :=
  ∀ name, ruleset.eraNumber? name = other.eraNumber? name

/-- A condition that names an era is false for a civilization whose ruleset lacks it, and
    without a civilization. -/
theorem Statement.Names.evaluate_eq_false {condition : Statement} {name : String}
    (h : condition.Names (.era name)) {s : Snapshot W}
    (hlacks : ∀ civ ∈ s.civ, (W.ruleset civ).eraNumber? name = none) :
    Registry.standard.evaluate condition s = false := by
  obtain ⟨⟨kind, hmem, hkind⟩, hname⟩ := h
  have hcompares : ∃ compare,
      kind.holds condition.params s = ConditionKind.comparesEra compare condition.params s := by
    simp only [MissingName.kinds, List.mem_cons, List.not_mem_nil, or_false] at hmem
    rcases hmem with rfl | rfl | rfl
    · exact ⟨fun ours era => ours < era, rfl⟩
    · exact ⟨fun ours era => era ≤ ours, rfl⟩
    · exact ⟨fun ours era => ours == era, rfl⟩
  obtain ⟨compare, hholds⟩ := hcompares
  rw [Registry.evaluate_standard_of_kind hkind, hholds, Bool.eq_false_iff]
  intro htrue
  obtain ⟨civ, hciv, era, hera, number, hnumber, -⟩ := ConditionKind.comparesEra_iff.mp htrue
  rw [List.head?_eq_getElem?] at hname
  obtain rfl : era = name := Option.some.inj (hera.symm.trans hname)
  rw [hlacks civ hciv] at hnumber
  contradiction

/-! ## Dead effects -/

/-- **Dead effects.** Take an audit of parsed statements, one of them, and a finding with
    its text. If the finding is about an unknown condition, the statement never applies,
    whatever the registry and the snapshot are. If it is about an unknown era, the
    statement applies in no snapshot without a civilization, and in none whose civilization
    plays by the same eras as the audit. -/
theorem Report.findings_are_dead_effects {statements : List Statement}
    (hparsed : ∀ statement ∈ statements, statement.IsParsed) (ruleset : Ruleset)
    {statement : Statement} (hstatement : statement ∈ statements) :
    (∀ finding ∈ (audit statements ruleset).unknownConditions,
      finding.text = statement.text →
        ∀ (registry : Registry W) (s : Option (Snapshot W)),
          statement.appliesBy registry s = false) ∧
    ∀ finding ∈ (audit statements ruleset).unknownReferences, ∀ name,
      finding.text = statement.text → finding.detail = (MissingName.era name).message →
        ∀ s : Snapshot W, (∀ civ ∈ s.civ, (W.ruleset civ).SameEras ruleset) →
          statement.applies (some s) = false := by
  -- a finding may stand for another statement, but not for one with other conditions
  have hsame : ∀ other ∈ statements, other.text = statement.text →
      other.conditions = statement.conditions := by
    intro other hother htext
    rw [(hparsed other hother).conditions_eq, htext, (hparsed statement hstatement).conditions_eq]
  constructor
  · intro finding hfinding htext registry s
    obtain ⟨other, hother, condition, hcondition, hkind, rfl⟩ :=
      mem_unknownConditions_iff.mp hfinding
    rw [hsame other hother htext] at hcondition
    exact Statement.appliesBy_eq_false_of_kind_eq_none hcondition hkind registry s
  · intro finding hfinding name htext hdetail s hsameEras
    obtain ⟨other, hother, condition, hcondition, missing, hnames, hlacks, rfl⟩ :=
      mem_unknownReferences_iff.mp hfinding
    obtain rfl : missing = .era name := MissingName.message_injective hdetail
    rw [hsame other hother htext] at hcondition
    apply Statement.appliesBy_some_eq_false hcondition
    apply hnames.evaluate_eq_false
    intro civ hciv
    rw [hsameEras civ hciv name]
    exact Ruleset.eraNumber?_eq_none_iff.mpr hlacks

/-- An effect in the place of a condition, and an era that neither ruleset has. -/
theorem Report.findings_are_dead_effects_unknown :
    let unknown := Statement.effect "[+1 Gold] <Unbuildable>"
    let early := Statement.effect "[+1 Gold] <before the [Space era]>"
    let ruleset : Ruleset := { name := "Ours", eras := [{ name := "Ancient era", number := 0 }] }
    let report := audit [unknown, early] ruleset
    let s : Snapshot Plain.world := { civ := some { ruleset := { ruleset with name := "Theirs" } } }
    (∀ statement ∈ [unknown, early], statement.IsParsed) ∧
    (∃ finding ∈ report.unknownConditions, finding.text = unknown.text) ∧
    (∀ (registry : Registry Plain.world) (s : Option (Snapshot Plain.world)),
      unknown.appliesBy registry s = false) ∧
    (∃ finding ∈ report.unknownReferences,
      finding.text = early.text ∧ finding.detail = "unknown era 'Space era'") ∧
    (∀ civ ∈ s.civ, (Plain.world.ruleset civ).SameEras ruleset) ∧
    early.applies (some s) = false := by
  intro unknown early ruleset report s
  have hparsed : ∀ statement ∈ [unknown, early], statement.IsParsed := by
    simp [unknown, early, Statement.isParsed_effect]
  have hunknown : ∃ finding ∈ report.unknownConditions, finding.text = unknown.text := by
    have hclauses : Clause.conditions "[+1 Gold] <Unbuildable>" = ["Unbuildable"] := by decide
    have hcondition : Statement.condition "Unbuildable" ∈ unknown.conditions := by
      rw [Statement.conditions_effect, hclauses]
      exact List.mem_singleton_self _
    have hwrites : (Kind.effect .unbuildable).Writes [] (Clause.main "Unbuildable") :=
      Kind.writes_iff.mpr (by decide)
    have hkind : (Statement.condition "Unbuildable").kind = none :=
      Statement.kind_condition_of_effect hwrites
    exact ⟨_, mem_unknownConditions_iff.mpr ⟨unknown, by simp, _, hcondition, hkind, rfl⟩, rfl⟩
  have hearly : ∃ finding ∈ report.unknownReferences,
      finding.text = early.text ∧ finding.detail = "unknown era 'Space era'" := by
    have hclauses : Clause.conditions "[+1 Gold] <before the [Space era]>" =
        [(Kind.condition .beforeEra).written ["Space era"]] := by decide
    have hcondition : Statement.condition ((Kind.condition .beforeEra).written ["Space era"]) ∈
        early.conditions := by
      rw [Statement.conditions_effect, hclauses]
      exact List.mem_singleton_self _
    have hlength : ["Space era"].length = (Kind.condition .beforeEra).slotCount := by decide
    obtain ⟨hkind, hparams⟩ := ConditionKind.condition_written .beforeEra hlength (by decide)
    have hnames : (Statement.condition ((Kind.condition .beforeEra).written ["Space era"])).Names
        (.era "Space era") :=
      ⟨⟨.beforeEra, by decide, hkind⟩, by rw [hparams]; rfl⟩
    have hlacks : ruleset.Lacks (.era "Space era") := by simp [Ruleset.Lacks, ruleset]
    exact ⟨_, mem_unknownReferences_iff.mpr
      ⟨early, by simp, _, hcondition, _, hnames, hlacks, rfl⟩, rfl, rfl⟩
  have hsame : ∀ civ ∈ s.civ, (Plain.world.ruleset civ).SameEras ruleset := by
    intro civ hciv name
    obtain rfl := Option.some.inj hciv
    rfl
  have hfirst : unknown ∈ [unknown, early] := by simp
  have hsecond : early ∈ [unknown, early] := by simp
  obtain ⟨hdead, -⟩ := findings_are_dead_effects (W := Plain.world) hparsed ruleset hfirst
  obtain ⟨-, hdead'⟩ := findings_are_dead_effects (W := Plain.world) hparsed ruleset hsecond
  obtain ⟨finding, hmem, htext⟩ := hunknown
  obtain ⟨finding', hmem', htext', hdetail⟩ := hearly
  exact ⟨hparsed, ⟨finding, hmem, htext⟩, hdead finding hmem htext,
    ⟨finding', hmem', htext', hdetail⟩, hsame,
    hdead' finding' hmem' "Space era" htext' hdetail s hsame⟩

end EffectText
