import EffectText.Proofs.Clause.Conditions
import EffectText.Proofs.Condition.Meaning

/-! # Verdicts on statements

    Whether a statement applies depends on the texts of its conditions and on nothing
    else: not on its main clause, its kind, or what declared it (`appliesBy_parse_some`).

    * `applies_as_conjunction`: a condition written anywhere into a text is one more part
      of a conjunction. Order and repetition of conditions do not matter, and without a
      snapshot only a text without conditions applies.
-/

namespace EffectText

open Text

variable {W : World}

/-- A conjunction over a list depends on what is in the list only. -/
theorem all_eq_of_mem_iff {α : Type} {l l' : List α} (h : ∀ a, a ∈ l ↔ a ∈ l') (p : α → Bool) :
    l.all p = l'.all p := by
  rw [Bool.eq_iff_iff, List.all_eq_true, List.all_eq_true]
  simp only [h]

namespace Statement

/-! ## Verdicts read the conditions -/

theorem appliesBy_parse_some (half : Half) (source : Option Source) (text : String)
    (registry : Registry W) (s : Snapshot W) :
    (parse half source text).appliesBy registry (some s) =
      (Clause.conditions text).all fun clause => registry.evaluate (condition clause) s := by
  rw [parse_eq]
  simp [appliesBy, Function.comp_def]

theorem appliesBy_parse_none (half : Half) (source : Option Source) (text : String)
    (registry : Registry W) :
    (parse half source text).appliesBy registry none = (Clause.conditions text).isEmpty := by
  rw [parse_eq]
  simp [appliesBy]

/-- **Meaning of a statement**: by the standard registry it applies in a snapshot exactly
    if each of its conditions has a kind and means something true there. -/
theorem applies_parse_some_iff {half : Half} {source : Option Source} {text : String}
    {s : Snapshot W} :
    (parse half source text).applies (some s) = true ↔
      ∀ clause ∈ Clause.conditions text, ∃ kind,
        (condition clause).kind = some (.condition kind) ∧
          kind.Means (condition clause).params s := by
  unfold applies
  rw [appliesBy_parse_some, List.all_eq_true]
  simp only [Registry.evaluate_standard_iff, ConditionKind.holds_iff_means]

/-- A text with one written condition applies exactly if the condition means something
    true. -/
theorem applies_iff_means {text : String} {kind : ConditionKind} {slots : List String}
    (h : Clause.conditions text = [(Kind.condition kind).written slots])
    (hlength : slots.length = (Kind.condition kind).slotCount)
    (hslots : ∀ slot ∈ slots, Clause.IsPlainSlot slot) {s : Snapshot W} :
    (effect text).applies (some s) = true ↔ kind.Means slots s := by
  obtain ⟨hkind, hparams⟩ := ConditionKind.condition_written kind hlength hslots
  rw [effect, applies_parse_some_iff, h, List.forall_mem_singleton, hkind, hparams]
  simp

/-! ## False conditions -/

/-- One false condition is enough for a statement not to apply. -/
theorem appliesBy_some_eq_false {statement condition : Statement}
    (hmem : condition ∈ statement.conditions) {registry : Registry W} {s : Snapshot W}
    (hfalse : registry.evaluate condition s = false) :
    statement.appliesBy registry (some s) = false := by
  unfold appliesBy
  rw [List.all_eq_false]
  exact ⟨condition, hmem, by simp [hfalse]⟩

theorem appliesBy_none_eq_false {statement condition : Statement}
    (hmem : condition ∈ statement.conditions) (registry : Registry W) :
    statement.appliesBy registry none = false := by
  unfold appliesBy
  rw [List.isEmpty_eq_false_iff]
  exact List.ne_nil_of_mem hmem

/-- A statement with a condition that has no kind never applies. -/
theorem appliesBy_eq_false_of_kind_eq_none {statement condition : Statement}
    (hmem : condition ∈ statement.conditions) (hkind : condition.kind = none)
    (registry : Registry W) (s : Option (Snapshot W)) :
    statement.appliesBy registry s = false := by
  cases s with
  | none => exact appliesBy_none_eq_false hmem registry
  | some s =>
    apply appliesBy_some_eq_false hmem
    unfold Registry.evaluate
    rw [hkind]

/-! ## Parsed statements -/

/-- **Parsed**: the statement came from parsing, so its text decides the rest. -/
def IsParsed (statement : Statement) : Prop :=
  ∃ half source text, statement = parse half source text

theorem isParsed_effect (text : String) : (effect text).IsParsed := ⟨_, _, _, rfl⟩

/-- The conditions of a parsed text are its conditions, parsed. -/
theorem conditions_parse (half : Half) (source : Option Source) (text : String) :
    (parse half source text).conditions = (Clause.conditions text).map condition := by
  rw [parse_eq]

theorem conditions_effect (text : String) :
    (effect text).conditions = (Clause.conditions text).map condition :=
  conditions_parse .effect none text

/-- The conditions of a parsed statement are those of its text. -/
theorem IsParsed.conditions_eq {statement : Statement} (h : statement.IsParsed) :
    statement.conditions = (Clause.conditions statement.text).map condition := by
  obtain ⟨half, source, text, rfl⟩ := h
  rw [parse_eq]

/-! ## Conjunctions -/

/-- **Conjunction.** Take a condition, written between two texts that may hold any
    brackets. The whole applies exactly if both texts apply and the condition is true,
    whatever the registry and the snapshot are. So two texts with the same conditions,
    in any order and repeated at will, have the same verdict. Without a snapshot a text
    applies exactly if no condition is written in it. -/
theorem applies_as_conjunction (registry : Registry W) :
    (∀ (s : Snapshot W) (before inner after : String), Unbracketed .angle inner.toList →
      (effect (before ++ "<" ++ inner ++ ">" ++ after)).appliesBy registry (some s) =
        ((effect before).appliesBy registry (some s) &&
          registry.evaluate (condition (String.ofList (trim inner.toList))) s &&
          (effect after).appliesBy registry (some s))) ∧
    (∀ (s : Snapshot W) (text other : String),
      (∀ clause, clause ∈ Clause.conditions text ↔ clause ∈ Clause.conditions other) →
      (effect text).appliesBy registry (some s) =
        (effect other).appliesBy registry (some s)) ∧
    ∀ text : String,
      (effect text).appliesBy registry none = true ↔
        ¬ ∃ before inner after, Unbracketed .angle inner.toList ∧
          text = before ++ "<" ++ inner ++ ">" ++ after := by
  refine ⟨?insert, ?same, ?nothing⟩
  case insert =>
    intro s before inner after hfree
    simp only [effect, appliesBy_parse_some, Clause.conditions_insert hfree]
    rw [List.all_append, List.all_cons, Bool.and_assoc]
  case same =>
    intro s text other hsame
    simp only [effect, appliesBy_parse_some]
    exact all_eq_of_mem_iff hsame _
  case nothing =>
    intro text
    rw [effect, appliesBy_parse_none, List.isEmpty_iff, Clause.conditions_eq_nil_iff]

/-- An unclosed bracket in front of the condition and a lone one behind it; two
    conditions in two orders, one of them written twice. -/
theorem applies_as_conjunction_nested :
    Unbracketed .angle " when at war ".toList ∧
    (effect ("[+1 Gold] <during <" ++ "<" ++ " when at war " ++ ">" ++ "> <vs cities>")).appliesBy
        (Registry.standard (W := Plain.world)) (some { civ := some { atWar := true } }) =
      ((effect "[+1 Gold] <during <").appliesBy
          (Registry.standard (W := Plain.world)) (some { civ := some { atWar := true } }) &&
        (Registry.standard (W := Plain.world)).evaluate
          (condition (String.ofList (trim " when at war ".toList)))
          { civ := some { atWar := true } } &&
        (effect "> <vs cities>").appliesBy
          (Registry.standard (W := Plain.world)) (some { civ := some { atWar := true } })) ∧
    (∀ clause, clause ∈ Clause.conditions "Unbuildable <vs cities> <when at war>" ↔
      clause ∈ Clause.conditions "<when at war> [+1 Gold] <vs cities>< when at war >") ∧
    (effect "Unbuildable <vs cities> <when at war>").appliesBy
        (Registry.standard (W := Plain.world)) (some { civ := some { atWar := true } }) =
      (effect "<when at war> [+1 Gold] <vs cities>< when at war >").appliesBy
        (Registry.standard (W := Plain.world)) (some { civ := some { atWar := true } }) := by
  have hfree : Unbracketed .angle " when at war ".toList := by decide
  have htext : Clause.conditions "Unbuildable <vs cities> <when at war>" =
      ["vs cities", "when at war"] := by decide
  have hother : Clause.conditions "<when at war> [+1 Gold] <vs cities>< when at war >" =
      ["when at war", "vs cities", "when at war"] := by decide
  have hsame : ∀ clause, clause ∈ Clause.conditions "Unbuildable <vs cities> <when at war>" ↔
      clause ∈ Clause.conditions "<when at war> [+1 Gold] <vs cities>< when at war >" := by
    intro clause
    rw [htext, hother]
    grind
  obtain ⟨hinsert, hset, -⟩ := applies_as_conjunction (Registry.standard (W := Plain.world))
  exact ⟨hfree, hinsert _ _ _ _ hfree, hsame, hset _ _ _ hsame⟩

end Statement

end EffectText
