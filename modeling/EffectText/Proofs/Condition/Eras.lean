import EffectText.Proofs.Condition.Meaning
import EffectText.Proofs.Ruleset.Lossless

/-! # Conditions on eras

    A condition on an era looks up the number of the era that it names, in the ruleset of
    the civilization, and compares the number of the civilization's own era with it
    (`ConditionKind.comparesEra`).

    The ruleset of a definition without problems gives every listed era its own number, and
    no number to other names. So under such a ruleset the conditions follow the order of the
    numbers (`Statement.eras_follow_one_order`): only the current era is "during", "before"
    is the opposite of "starting from", and for a name that is not listed all three are
    false.
-/

namespace EffectText

variable {W : World}

/-! ## Texts of conditions on eras -/

theorem written_beforeEra (name : String) :
    (Kind.condition .beforeEra).written [name] = "before the [" ++ name ++ "]" :=
  Clause.replace_last "before the " "era" name (by decide) (by decide)

theorem written_fromEra (name : String) :
    (Kind.condition .fromEra).written [name] = "starting from the [" ++ name ++ "]" :=
  Clause.replace_last "starting from the " "era" name (by decide) (by decide)

theorem written_duringEra (name : String) :
    (Kind.condition .duringEra).written [name] = "during the [" ++ name ++ "]" :=
  Clause.replace_last "during the " "era" name (by decide) (by decide)

namespace ConditionKind

/-- The kinds that ask about an era. -/
def aboutEra : List ConditionKind := [.beforeEra, .fromEra, .duringEra]

/-! ## Comparing in a ruleset without problems -/

section ruleset

variable {definition : RulesetDefinition} (hsound : definition.IsSound)
  {civ : W.Civ} (hruleset : W.ruleset civ = Ruleset.ofDefinition definition)
  {s : Snapshot W} (hciv : s.civ = some civ)
include hsound hruleset hciv

/-- The name of a listed era stands for the number of that era. -/
theorem comparesEra_listed {era : Era} (hera : era ∈ definition.eras)
    (compare : Int → Int → Bool) (others : List String) :
    comparesEra compare (era.name :: others) s = compare (W.eraNumber civ) era.number := by
  have hnumber : (W.ruleset civ).eraNumber? era.name = some era.number := by
    rw [hruleset]
    exact (Ruleset.keeps_ofDefinition hsound).eraNumber?_listed era hera
  simp [comparesEra, hciv, hnumber]

/-- A name that is not listed stands for no number. -/
theorem comparesEra_unlisted {name : String} (hname : name ∉ definition.eras.map (·.name))
    (compare : Int → Int → Bool) (others : List String) :
    comparesEra compare (name :: others) s = false := by
  have hnone : (W.ruleset civ).eraNumber? name = none := by
    rw [hruleset]
    exact (Ruleset.keeps_ofDefinition hsound).eraNumber?_unlisted name hname
  simp [comparesEra, hciv, hnone]

/-- A condition of a kind that asks about an era is false if it names an era that is not
    listed, whatever its text is. -/
theorem evaluate_unlisted {kind : ConditionKind} (hkind : kind ∈ aboutEra)
    {condition : Statement} (hcondition : condition.kind = some (.condition kind))
    {name : String} {others : List String} (hparams : condition.params = name :: others)
    (hname : name ∉ definition.eras.map (·.name)) :
    Registry.standard.evaluate condition s = false := by
  have hfalse : ∀ compare : Int → Int → Bool, comparesEra compare condition.params s = false := by
    intro compare
    rw [hparams]
    exact comparesEra_unlisted hsound hruleset hciv hname compare others
  rw [Registry.evaluate_standard_of_kind hcondition]
  simp only [aboutEra, List.mem_cons, List.not_mem_nil, or_false] at hkind
  rcases hkind with rfl | rfl | rfl
  · rw [holds]
    exact hfalse _
  · rw [holds]
    exact hfalse _
  · rw [holds]
    exact hfalse _

end ruleset

/-- A condition written with one plain slot is decided by the rule of its kind, for that
    slot. -/
theorem evaluate_written_one (kind : ConditionKind) (hcount : (Kind.condition kind).slotCount = 1)
    {name : String} (hname : Clause.IsPlainSlot name) (s : Snapshot W) :
    Registry.standard.evaluate (Statement.condition ((Kind.condition kind).written [name])) s =
      kind.holds [name] s := by
  have hslots : ∀ slot ∈ [name], Clause.IsPlainSlot slot := by
    intro slot hslot
    rw [List.mem_singleton.mp hslot]
    exact hname
  have hlength : [name].length = (Kind.condition kind).slotCount := hcount.symm
  obtain ⟨hkind, hparams⟩ := condition_written kind hlength hslots
  rw [Registry.evaluate_standard_of_kind hkind, hparams]

end ConditionKind

namespace Statement

section plainName

variable {name : String} (hname : Clause.IsPlainSlot name) (s : Snapshot W)
include hname

theorem evaluate_beforeEra :
    Registry.standard.evaluate (condition ("before the [" ++ name ++ "]")) s =
      ConditionKind.comparesEra (fun ours era => ours < era) [name] s := by
  rw [← written_beforeEra]
  exact ConditionKind.evaluate_written_one .beforeEra (by decide) hname s

theorem evaluate_fromEra :
    Registry.standard.evaluate (condition ("starting from the [" ++ name ++ "]")) s =
      ConditionKind.comparesEra (fun ours era => era ≤ ours) [name] s := by
  rw [← written_fromEra]
  exact ConditionKind.evaluate_written_one .fromEra (by decide) hname s

theorem evaluate_duringEra :
    Registry.standard.evaluate (condition ("during the [" ++ name ++ "]")) s =
      ConditionKind.comparesEra (fun ours era => ours == era) [name] s := by
  rw [← written_duringEra]
  exact ConditionKind.evaluate_written_one .duringEra (by decide) hname s

end plainName

/-! ## One order -/

/-- **One order of eras.** Take the ruleset of a definition without problems, and a
    snapshot of a civilization that has this ruleset. While the era of the civilization has
    the number of a listed era, the current one, conditions written with the plain name of a
    listed era follow the order of the numbers: "during" is true for the current era only,
    "starting from" for it and the eras below it, and "before" exactly where "starting from"
    is false. Whatever the number of the civilization's era is, "during" is true for at most
    one listed era. For a plain name that is not listed all three conditions are false, and
    so is every other text that is read as one of them with a name that is not listed. -/
theorem eras_follow_one_order {definition : RulesetDefinition} (hnone : definition.problems = [])
    {civ : W.Civ} (hruleset : W.ruleset civ = Ruleset.ofDefinition definition)
    {s : Snapshot W} (hciv : s.civ = some civ) :
    (∀ current ∈ definition.eras, W.eraNumber civ = current.number →
      ∀ era ∈ definition.eras, Clause.IsPlainSlot era.name →
        (Registry.standard.evaluate (condition ("during the [" ++ era.name ++ "]")) s = true ↔
          era = current) ∧
        (Registry.standard.evaluate
            (condition ("starting from the [" ++ era.name ++ "]")) s = true ↔
          era.number ≤ current.number) ∧
        (Registry.standard.evaluate (condition ("before the [" ++ era.name ++ "]")) s = true ↔
          Registry.standard.evaluate
            (condition ("starting from the [" ++ era.name ++ "]")) s = false)) ∧
    (∀ era ∈ definition.eras, ∀ other ∈ definition.eras,
      Clause.IsPlainSlot era.name → Clause.IsPlainSlot other.name →
      Registry.standard.evaluate (condition ("during the [" ++ era.name ++ "]")) s = true →
      Registry.standard.evaluate (condition ("during the [" ++ other.name ++ "]")) s = true →
      era = other) ∧
    (∀ name, Clause.IsPlainSlot name → name ∉ definition.eras.map (·.name) →
      Registry.standard.evaluate (condition ("during the [" ++ name ++ "]")) s = false ∧
      Registry.standard.evaluate (condition ("starting from the [" ++ name ++ "]")) s = false ∧
      Registry.standard.evaluate (condition ("before the [" ++ name ++ "]")) s = false) ∧
    ∀ (text name : String) (kind : ConditionKind), kind ∈ ConditionKind.aboutEra →
      (condition text).kind = some (.condition kind) → (condition text).params = [name] →
      name ∉ definition.eras.map (·.name) →
      Registry.standard.evaluate (condition text) s = false := by
  have hsound : definition.IsSound := RulesetDefinition.problems_eq_nil_iff.mp hnone
  -- no two listed eras share a number
  have hnumbers : ∀ {era other : Era}, era ∈ definition.eras → other ∈ definition.eras →
      era.number = other.number → era = other := fun hera hother heq =>
    List.inj_on_of_nodup_map hsound.eraNumbers_nodup hera hother heq
  refine ⟨?listed, ?single, ?unlisted, ?read⟩
  case listed =>
    intro current hcurrent hnumber era hera hplain
    rw [evaluate_duringEra hplain, evaluate_fromEra hplain, evaluate_beforeEra hplain]
    simp only [ConditionKind.comparesEra_listed hsound hruleset hciv hera, hnumber]
    refine ⟨?_, ?_, ?_⟩
    · rw [beq_iff_eq]
      constructor
      · intro heq
        exact hnumbers hera hcurrent heq.symm
      · rintro rfl
        rfl
    · exact decide_eq_true_iff
    · rw [decide_eq_true_iff, decide_eq_false_iff_not]
      exact Int.not_le.symm
  case single =>
    intro era hera other hother hplain hplain' hduring hduring'
    rw [evaluate_duringEra hplain, ConditionKind.comparesEra_listed hsound hruleset hciv hera,
      beq_iff_eq] at hduring
    rw [evaluate_duringEra hplain', ConditionKind.comparesEra_listed hsound hruleset hciv hother,
      beq_iff_eq] at hduring'
    exact hnumbers hera hother (hduring.symm.trans hduring')
  case unlisted =>
    intro name hplain hname
    rw [evaluate_duringEra hplain, evaluate_fromEra hplain, evaluate_beforeEra hplain]
    have hfalse := ConditionKind.comparesEra_unlisted hsound hruleset hciv hname
    exact ⟨hfalse _ [], hfalse _ [], hfalse _ []⟩
  case read =>
    intro text name kind hkind hcondition hparams hname
    exact ConditionKind.evaluate_unlisted hsound hruleset hciv hkind hcondition hparams hname

/-- Three eras that are not listed in the order of their numbers, with the civilization in
    the middle one; and a name that differs in case. -/
theorem eras_follow_one_order_classical :
    let definition : RulesetDefinition :=
      { name := "Test"
        eras := [{ name := "Medieval era", number := 7 }, { name := "Ancient era", number := -1 },
          { name := "Classical era", number := 2 }] }
    let civ : Plain.Civ := { ruleset := Ruleset.ofDefinition definition, era := 2 }
    let s : Snapshot Plain.world := { civ := some civ }
    definition.problems = [] ∧
    Clause.IsPlainSlot "Ancient era" ∧
    (Registry.standard.evaluate (condition ("during the [" ++ "Ancient era" ++ "]")) s = true ↔
      ({ name := "Ancient era", number := -1 } : Era) =
        { name := "Classical era", number := 2 }) ∧
    (Registry.standard.evaluate
        (condition ("starting from the [" ++ "Ancient era" ++ "]")) s = true ↔
      (-1 : Int) ≤ 2) ∧
    (Registry.standard.evaluate (condition ("before the [" ++ "Ancient era" ++ "]")) s = true ↔
      Registry.standard.evaluate
        (condition ("starting from the [" ++ "Ancient era" ++ "]")) s = false) ∧
    Clause.IsPlainSlot "ancient era" ∧
    Registry.standard.evaluate (condition ("during the [" ++ "ancient era" ++ "]")) s = false ∧
    Registry.standard.evaluate (condition ("starting from the [" ++ "ancient era" ++ "]")) s =
      false ∧
    Registry.standard.evaluate (condition ("before the [" ++ "ancient era" ++ "]")) s = false := by
  intro definition civ s
  have hnone : definition.problems = [] := by decide
  have hplain : Clause.IsPlainSlot "Ancient era" := by decide
  have hplain' : Clause.IsPlainSlot "ancient era" := by decide
  have hciv : s.civ = some civ := rfl
  have hruleset : Plain.world.ruleset civ = Ruleset.ofDefinition definition := rfl
  obtain ⟨hlisted, -, hunlisted, -⟩ := eras_follow_one_order hnone hruleset hciv
  have hancient := hlisted { name := "Classical era", number := 2 } (by decide) rfl
    { name := "Ancient era", number := -1 } (by decide) hplain
  have hother := hunlisted "ancient era" hplain' (by decide)
  exact ⟨hnone, hplain, hancient.1, hancient.2.1, hancient.2.2, hplain', hother⟩

end Statement

end EffectText
