import EffectText.Proofs.Statement.Verdict
import EffectText.World.Plain

/-! # Conditions do not nest

    The conditions of a text are parsed in turn, and nothing in the rule says where this
    ends. It ends after one level: no angle bracket stands in a condition, so a condition
    is a **leaf** (`isLeaf_of_mem_conditions`).

    Verdicts and parameters are collected from the statement and its conditions and never
    from anything deeper. Since nothing is deeper, nothing is missed.

    * `parse_stops_after_one_level`: parsing needs two levels at most, the conditions are
      leaves, and verdicts and parameters cover all **parts** of the parsed statement.
-/

namespace EffectText

open Text

variable {W : World}

namespace Statement

/-! ## Leaves -/

/-- **Leaf**: a condition as it stands in a parsed statement. -/
structure IsLeaf (condition : Statement) : Prop where
  /-- It has no conditions of its own. -/
  conditions : condition.conditions = []
  /-- No angle bracket stands in its text. -/
  unbracketed : Unbracketed .angle condition.text.toList
  /-- No blank stands at either end of its text. -/
  trimmed : IsTrimmed condition.text.toList
  /-- Nothing is said to have declared it. -/
  source : condition.source = none
  /-- If it has a kind, it is a kind of condition. -/
  kind : condition.kind = none ∨ ∃ kind, condition.kind = some (.condition kind)

/-- In the half of conditions, every kind is a kind of condition. -/
theorem kind_condition (text : String) :
    (condition text).kind = none ∨ ∃ kind, (condition text).kind = some (.condition kind) := by
  cases hkind : (condition text).kind with
  | none => exact .inl rfl
  | some found =>
    have hhalf : found.half = .condition := (kind_parse_eq_some_iff.mp hkind).1
    cases found with
    | effect kind => exact absurd hhalf (by simp [Kind.half])
    | condition kind => exact .inr ⟨kind, rfl⟩

theorem isLeaf_condition {text clause : String} (h : clause ∈ Clause.conditions text) :
    (condition clause).IsLeaf := by
  have hfree : Unbracketed .angle clause.toList := Clause.unbracketed_of_mem_conditions h
  have htext : (condition clause).text = clause := by rw [condition, parse_eq]
  constructor
  case conditions =>
    rw [condition, conditions_parse, Clause.conditions_of_unbracketed hfree, List.map_nil]
  case unbracketed =>
    rw [htext]
    exact hfree
  case trimmed =>
    rw [htext]
    exact Clause.isTrimmed_of_mem_conditions h
  case source => rw [condition, parse_eq]
  case kind => exact kind_condition clause

/-- The conditions of a parsed statement are leaves. -/
theorem isLeaf_of_mem_conditions {half : Half} {source : Option Source} {text : String}
    {condition : Statement} (h : condition ∈ (parse half source text).conditions) :
    condition.IsLeaf := by
  rw [conditions_parse] at h
  obtain ⟨clause, hclause, rfl⟩ := List.mem_map.mp h
  exact isLeaf_condition hclause

/-! ## Levels of parsing -/

/-- **Parsing within a number of levels**: the rule of parsing, except that it gives up
    where a text stands below the last level. -/
def parseWithin : Nat → Half → Option Source → String → Option Statement
  | 0, _, _, _ => none
  | levels + 1, half, source, text => do
    let conditions ← (Clause.conditions text).mapM (parseWithin levels .condition none)
    return {
      half
      text
      source
      pattern := Clause.pattern (Clause.main text)
      params := Clause.params (Clause.main text)
      kind := Catalog.find? half (Clause.pattern (Clause.main text))
      conditions }

theorem mapM_congr_of_mem {α β : Type} {f g : α → Option β} {list : List α}
    (h : ∀ a ∈ list, f a = g a) : list.mapM f = list.mapM g := by
  induction list with
  | nil => rfl
  | cons a rest ih =>
    obtain ⟨ha, hrest⟩ := List.forall_mem_cons.mp h
    rw [List.mapM_cons, List.mapM_cons, ha, ih hrest]

/-- One more level is enough if the levels below are enough for the conditions. -/
theorem parseWithin_succ {levels : Nat} {text : String}
    (h : ∀ clause ∈ Clause.conditions text,
      parseWithin levels .condition none clause = some (condition clause))
    (half : Half) (source : Option Source) :
    parseWithin (levels + 1) half source text = some (parse half source text) := by
  have hconditions : (Clause.conditions text).mapM (parseWithin levels .condition none) =
      some ((Clause.conditions text).map condition) := by
    rw [mapM_congr_of_mem h]
    exact List.mapM_pure
  unfold parseWithin
  rw [hconditions, parse_eq]
  rfl

/-- **Two levels** are enough for every text: its own, and that of its conditions. -/
theorem parseWithin_add_two (levels : Nat) (half : Half) (source : Option Source)
    (text : String) :
    parseWithin (levels + 2) half source text = some (parse half source text) := by
  refine parseWithin_succ ?_ half source
  intro clause hclause
  -- the second level is that of a condition, which leaves nothing for a third
  have hfree : Unbracketed .angle clause.toList := Clause.unbracketed_of_mem_conditions hclause
  refine parseWithin_succ ?_ .condition none
  rw [Clause.conditions_of_unbracketed hfree]
  simp

/-- One level is not. -/
example : (parseWithin 1 .effect none "[+1 Gold] <when at war>").isNone = true := by decide

/-! ## Parts -/

/-- **Part**: the statement itself, or a part of one of its conditions. -/
inductive PartOf : Statement → Statement → Prop where
  | whole (statement : Statement) : PartOf statement statement
  | inside {part condition statement : Statement} (mem : condition ∈ statement.conditions)
      (deeper : PartOf part condition) : PartOf part statement

/-- A leaf has no parts but itself. -/
theorem IsLeaf.eq_of_partOf {leaf part : Statement} (hleaf : leaf.IsLeaf)
    (h : part.PartOf leaf) : part = leaf := by
  cases h with
  | whole => rfl
  | inside mem _ =>
    rw [hleaf.conditions] at mem
    exact absurd mem List.not_mem_nil

/-- The parts of a parsed statement: itself and its conditions. -/
theorem partOf_parse_iff {half : Half} {source : Option Source} {text : String}
    {part : Statement} :
    part.PartOf (parse half source text) ↔
      part = parse half source text ∨ part ∈ (parse half source text).conditions := by
  constructor
  · intro h
    cases h with
    | whole => exact .inl rfl
    | inside mem deeper =>
      have heq : part = _ := (isLeaf_of_mem_conditions mem).eq_of_partOf deeper
      rw [heq]
      exact .inr mem
  · rintro (rfl | hmem)
    · exact .whole _
    · exact .inside hmem (.whole part)

/-- A parameter is among all parameters exactly if it is a parameter of some part. -/
theorem mem_allParams_parse_iff {half : Half} {source : Option Source} {text param : String} :
    param ∈ (parse half source text).allParams ↔
      ∃ part : Statement, part.PartOf (parse half source text) ∧ param ∈ part.params := by
  unfold allParams
  rw [List.mem_append, List.mem_flatMap]
  constructor
  · rintro (hmain | ⟨condition, hcondition, hparam⟩)
    · exact ⟨_, .whole _, hmain⟩
    · exact ⟨condition, .inside hcondition (.whole condition), hparam⟩
  · rintro ⟨part, hpart, hparam⟩
    rcases partOf_parse_iff.mp hpart with rfl | hcondition
    · exact .inl hparam
    · exact .inr ⟨part, hcondition, hparam⟩

/-- A statement applies exactly if every part of every condition is true. -/
theorem appliesBy_parse_some_iff {half : Half} {source : Option Source} {text : String}
    {registry : Registry W} {s : Snapshot W} :
    (parse half source text).appliesBy registry (some s) = true ↔
      ∀ condition ∈ (parse half source text).conditions, ∀ part, part.PartOf condition →
        registry.evaluate part s = true := by
  unfold appliesBy
  rw [List.all_eq_true]
  constructor
  · intro hall condition hcondition part hpart
    rw [(isLeaf_of_mem_conditions hcondition).eq_of_partOf hpart]
    exact hall condition hcondition
  · intro hall condition hcondition
    exact hall condition hcondition condition (.whole condition)

/-- **Nesting.** Parsing a text stops after one level, in either half of the catalog:
    however many levels it may use beyond two, it finds the same statement. Each condition
    of the statement is a leaf: it has no conditions, no angle brackets in its text, no
    blanks around it, no source, and no kind but one of condition. So a verdict that passes
    over the conditions of conditions is the verdict on all parts, and the parameters of
    the main clause and of each condition are those of all parts. -/
theorem parse_stops_after_one_level (half : Half) (source : Option Source) (text : String) :
    (∀ levels, parseWithin (levels + 2) half source text = some (parse half source text)) ∧
    (∀ condition ∈ (parse half source text).conditions, condition.IsLeaf) ∧
    (∀ (registry : Registry W) (s : Snapshot W),
      (parse half source text).appliesBy registry (some s) = true ↔
        ∀ condition ∈ (parse half source text).conditions, ∀ part, part.PartOf condition →
          registry.evaluate part s = true) ∧
    ∀ param, param ∈ (parse half source text).allParams ↔
      ∃ part : Statement, part.PartOf (parse half source text) ∧ param ∈ part.params := by
  refine ⟨?levels, ?leaves, ?verdict, ?params⟩
  case levels => exact fun levels => parseWithin_add_two levels half source text
  case leaves => exact fun condition => isLeaf_of_mem_conditions
  case verdict => exact fun registry s => appliesBy_parse_some_iff
  case params => exact fun param => mem_allParams_parse_iff

/-- Conditions in conditions, and brackets without partners. -/
theorem parse_stops_after_one_level_nested :
    condition "in [Hill] tiles" ∈
      (effect "[+1 Gold] <during <the < in [Hill] tiles > era>>").conditions ∧
    (condition "in [Hill] tiles").IsLeaf ∧
    "Hill" ∈ (effect "[+1 Gold] <during <the < in [Hill] tiles > era>>").allParams := by
  have hmem : condition "in [Hill] tiles" ∈
      (effect "[+1 Gold] <during <the < in [Hill] tiles > era>>").conditions := by
    have hconditions : Clause.conditions "[+1 Gold] <during <the < in [Hill] tiles > era>>" =
        ["in [Hill] tiles"] := by decide
    rw [conditions_effect, hconditions]
    exact List.mem_singleton_self _
  have hparam : "Hill" ∈ (condition "in [Hill] tiles").params := by
    rw [condition, parse_eq]
    decide
  obtain ⟨-, hleaves, -, hparams⟩ := parse_stops_after_one_level (W := Plain.world) .effect none
    "[+1 Gold] <during <the < in [Hill] tiles > era>>"
  exact ⟨hmem, hleaves _ hmem, (hparams "Hill").mpr ⟨_, .inside hmem (.whole _), hparam⟩⟩

end Statement

end EffectText
