import EffectText.Loading
import EffectText.Proofs.Text.Trimming
import Mathlib.Data.List.Nodup

/-! # Loading keeps what is written

    A ruleset has one era of each name, so a definition that uses a name twice would lose
    an era on the way. A definition without problems uses no name and no era number twice
    (`RulesetDefinition.problems_eq_nil_iff`), and the ruleset made of it has the same eras,
    techs and policies (`Ruleset.ofDefinition_eq`).

    * `Ruleset.validated_is_lossless`: what the checks accept, what is kept, and that only
      such rulesets are ever loaded.
-/

namespace EffectText

open Text

/-! ## Fresh names -/

/-- **Fresh**: all different, and none of the earlier ones. -/
def Fresh {α : Type} (earlier fresh : List α) : Prop :=
  fresh.Nodup ∧ ∀ a ∈ fresh, a ∉ earlier

theorem fresh_nil {α : Type} (earlier : List α) : Fresh earlier [] := by
  simp [Fresh]

theorem fresh_nil_iff {α : Type} {fresh : List α} : Fresh [] fresh ↔ fresh.Nodup := by
  simp [Fresh]

/-- The first one is new, and then counts among the earlier ones, wherever it is put. -/
theorem fresh_cons_iff {α : Type} {earlier next fresh : List α} {a : α}
    (hnext : ∀ b, b ∈ next ↔ b = a ∨ b ∈ earlier) :
    Fresh earlier (a :: fresh) ↔ a ∉ earlier ∧ Fresh next fresh := by
  unfold Fresh
  rw [List.nodup_cons, List.forall_mem_cons]
  simp only [hnext, not_or]
  constructor
  · rintro ⟨⟨ha, hnodup⟩, hnew, hfresh⟩
    exact ⟨hnew, hnodup, fun b hb => ⟨ne_of_mem_of_not_mem hb ha, hfresh b hb⟩⟩
  · rintro ⟨hnew, hnodup, hfresh⟩
    exact ⟨⟨fun ha => (hfresh a ha).1 rfl, hnodup⟩, hnew, fun b hb => (hfresh b hb).2⟩

theorem fresh_cons {α : Type} {earlier fresh : List α} {a : α} :
    Fresh earlier (a :: fresh) ↔ a ∉ earlier ∧ Fresh (a :: earlier) fresh :=
  fresh_cons_iff fun _ => List.mem_cons

theorem fresh_cons_snoc {α : Type} {earlier fresh : List α} {a : α} :
    Fresh earlier (a :: fresh) ↔ a ∉ earlier ∧ Fresh (earlier ++ [a]) fresh :=
  fresh_cons_iff fun b => by rw [List.mem_append, List.mem_singleton, or_comm]

/-! ## Blank names -/

theorem isBlankText_iff (s : String) : isBlankText s = true ↔ trim s.toList = [] :=
  (trim_eq_nil_iff s.toList).symm

namespace RulesetDefinition

/-! ## What the checks accept -/

/-- **Sound**: no name is blank, and no name or era number is used twice. -/
structure IsSound (definition : RulesetDefinition) : Prop where
  eras_named : ∀ era ∈ definition.eras, trim era.name.toList ≠ []
  techs_named : ∀ tech ∈ definition.techs, trim tech.toList ≠ []
  policies_named : ∀ policy ∈ definition.policies, trim policy.toList ≠ []
  eraNames_nodup : (definition.eras.map (·.name)).Nodup
  eraNumbers_nodup : (definition.eras.map (·.number)).Nodup
  techs_nodup : definition.techs.Nodup
  policies_nodup : definition.policies.Nodup

theorem eraProblems_eq_nil_iff {earlier : List Era} {era : Era} :
    eraProblems earlier era = [] ↔
      era.name ∉ earlier.map (·.name) ∧ era.number ∉ earlier.map (·.number) := by
  unfold eraProblems
  rw [List.append_eq_nil_iff]
  apply and_congr
  · rw [ite_eq_right_iff]
    simp
  · split
    · next first hfirst =>
      have hnumber : first.number = era.number := by simpa using List.find?_some hfirst
      have hmem : era.number ∈ earlier.map (·.number) :=
        List.mem_map.mpr ⟨first, List.mem_of_find?_eq_some hfirst, hnumber⟩
      simp only [hmem, not_true_eq_false, reduceCtorEq]
    · next hnone =>
      simpa using hnone

theorem erasProblems_eq_nil_iff {earlier eras : List Era} :
    erasProblems earlier eras = [] ↔
      (∀ era ∈ eras, trim era.name.toList ≠ []) ∧
        Fresh (earlier.map (·.name)) (eras.map (·.name)) ∧
        Fresh (earlier.map (·.number)) (eras.map (·.number)) := by
  induction eras generalizing earlier with
  | nil => simp [erasProblems, fresh_nil]
  | cons era eras ih =>
    unfold erasProblems
    -- a blank era is passed over by the other checks, but it is a problem itself
    split
    · next hblank =>
      rw [isBlankText_iff] at hblank
      simp [hblank]
    · next hnamed =>
      rw [isBlankText_iff] at hnamed
      rw [List.append_eq_nil_iff, eraProblems_eq_nil_iff, ih, List.forall_mem_cons]
      simp only [List.map_cons, fresh_cons]
      constructor
      · rintro ⟨⟨hname, hnumber⟩, heras, hnames, hnumbers⟩
        exact ⟨⟨hnamed, heras⟩, ⟨hname, hnames⟩, hnumber, hnumbers⟩
      · rintro ⟨⟨-, heras⟩, ⟨hname, hnames⟩, hnumber, hnumbers⟩
        exact ⟨⟨hname, hnumber⟩, heras, hnames, hnumbers⟩

theorem namesProblems_eq_nil_iff {named : Named} {earlier names : List String} :
    namesProblems named earlier names = [] ↔
      (∀ name ∈ names, trim name.toList ≠ []) ∧ Fresh earlier names := by
  induction names generalizing earlier with
  | nil => simp [namesProblems, fresh_nil]
  | cons name names ih =>
    unfold namesProblems
    rw [List.forall_mem_cons, fresh_cons]
    split
    · next hblank =>
      rw [isBlankText_iff] at hblank
      simp [hblank]
    · next hnamed =>
      rw [isBlankText_iff] at hnamed
      split
      · next hmem =>
        rw [List.contains_iff_mem] at hmem
        simp [hmem]
      · next hnew =>
        rw [List.contains_iff_mem] at hnew
        rw [ih]
        constructor
        · rintro ⟨hnames, hfresh⟩
          exact ⟨⟨hnamed, hnames⟩, hnew, hfresh⟩
        · rintro ⟨⟨-, hnames⟩, -, hfresh⟩
          exact ⟨hnames, hfresh⟩

/-- **Checks**: a definition has no problems exactly if it is sound. -/
theorem problems_eq_nil_iff {definition : RulesetDefinition} :
    definition.problems = [] ↔ definition.IsSound := by
  unfold problems
  rw [List.append_eq_nil_iff, List.append_eq_nil_iff, erasProblems_eq_nil_iff,
    namesProblems_eq_nil_iff, namesProblems_eq_nil_iff]
  simp only [List.map_nil, fresh_nil_iff]
  constructor
  · rintro ⟨⟨⟨heras, hnames, hnumbers⟩, htechs, htechs'⟩, hpolicies, hpolicies'⟩
    exact ⟨heras, htechs, hpolicies, hnames, hnumbers, htechs', hpolicies'⟩
  · rintro ⟨heras, htechs, hpolicies, hnames, hnumbers, htechs', hpolicies'⟩
    exact ⟨⟨⟨heras, hnames, hnumbers⟩, htechs, htechs'⟩, hpolicies, hpolicies'⟩

end RulesetDefinition

namespace Ruleset

/-! ## What is kept -/

/-- Adding eras with fresh names adds all of them. -/
theorem foldl_addEra {ruleset : Ruleset} {eras : List Era}
    (h : Fresh (ruleset.eras.map (·.name)) (eras.map (·.name))) :
    eras.foldl addEra ruleset = { ruleset with eras := ruleset.eras ++ eras } := by
  induction eras generalizing ruleset with
  | nil => simp
  | cons era eras ih =>
    rw [List.map_cons, fresh_cons_snoc] at h
    obtain ⟨hnew, hfresh⟩ := h
    have hkept : ruleset.eras.filter (·.name != era.name) = ruleset.eras := by
      rw [List.filter_eq_self]
      intro other hother
      rw [bne_iff_ne]
      exact fun heq => hnew (List.mem_map.mpr ⟨other, hother, heq⟩)
    have hadd : ruleset.addEra era = { ruleset with eras := ruleset.eras ++ [era] } := by
      rw [addEra, hkept]
    rw [List.foldl_cons, hadd, ih (by simpa using hfresh)]
    simp

/-- Names that are all different are kept as they are. -/
theorem distinct_eq_self {names : List String} (h : names.Nodup) : distinct names = names := by
  unfold distinct
  -- the names to come are fresh with respect to those that are kept so far
  suffices hfold : ∀ kept, Fresh kept names → names.foldl
      (fun kept name => if kept.contains name then kept else kept ++ [name]) kept =
        kept ++ names by
    simpa using hfold [] (fresh_nil_iff.mpr h)
  clear h
  induction names with
  | nil => simp
  | cons name names ih =>
    intro kept hfresh
    obtain ⟨hnew, hfresh⟩ := fresh_cons_snoc.mp hfresh
    rw [List.foldl_cons, if_neg (by simpa using hnew), ih _ hfresh]
    simp

/-- The ruleset of a sound definition has the lists of the definition. -/
theorem ofDefinition_eq {definition : RulesetDefinition} (h : definition.IsSound) :
    ofDefinition definition =
      { name := definition.name
        eras := definition.eras
        techs := definition.techs
        policies := definition.policies } := by
  unfold ofDefinition
  rw [distinct_eq_self h.techs_nodup, distinct_eq_self h.policies_nodup]
  exact foldl_addEra (fresh_nil_iff.mpr h.eraNames_nodup)

/-- **Keeping** a definition: the ruleset has everything that is written there, and nothing
    else. -/
structure Keeps (ruleset : Ruleset) (definition : RulesetDefinition) : Prop where
  name_eq : ruleset.name = definition.name
  eras_length : ruleset.eras.length = definition.eras.length
  techs_length : ruleset.techs.length = definition.techs.length
  policies_length : ruleset.policies.length = definition.policies.length
  /-- Every era that is listed has its own number. -/
  eraNumber?_listed : ∀ era ∈ definition.eras, ruleset.eraNumber? era.name = some era.number
  /-- Other names have none. -/
  eraNumber?_unlisted : ∀ name, name ∉ definition.eras.map (·.name) →
    ruleset.eraNumber? name = none
  /-- No two eras have one number. -/
  eraNumber?_injective : ∀ name other number, ruleset.eraNumber? name = some number →
    ruleset.eraNumber? other = some number → name = other
  hasTech_iff : ∀ name, ruleset.hasTech name = true ↔ name ∈ definition.techs
  hasPolicy_iff : ∀ name, ruleset.hasPolicy name = true ↔ name ∈ definition.policies

/-- In a ruleset without two eras of one name, a name has the number of its era. -/
theorem eraNumber?_eq_some_iff {ruleset : Ruleset} (h : (ruleset.eras.map (·.name)).Nodup)
    {name : String} {number : Int} :
    ruleset.eraNumber? name = some number ↔ { name, number } ∈ ruleset.eras := by
  unfold eraNumber?
  rw [Option.map_eq_some_iff]
  constructor
  · rintro ⟨era, hfind, rfl⟩
    have hname : era.name = name := by simpa using List.find?_some hfind
    obtain rfl := hname
    exact List.mem_of_find?_eq_some hfind
  · intro hmem
    have hsome : (ruleset.eras.find? (·.name == name)).isSome = true := by
      rw [List.find?_isSome]
      exact ⟨_, hmem, beq_self_eq_true name⟩
    obtain ⟨era, hfind⟩ := Option.isSome_iff_exists.mp hsome
    have hname : era.name = name := by simpa using List.find?_some hfind
    have hera := List.inj_on_of_nodup_map h (List.mem_of_find?_eq_some hfind) hmem hname
    exact ⟨era, hfind, congrArg Era.number hera⟩

theorem keeps_ofDefinition {definition : RulesetDefinition} (h : definition.IsSound) :
    (ofDefinition definition).Keeps definition := by
  have hnodup : ((ofDefinition definition).eras.map (·.name)).Nodup := by
    rw [ofDefinition_eq h]
    exact h.eraNames_nodup
  have hnumber : ∀ {name : String} {number : Int},
      (ofDefinition definition).eraNumber? name = some number ↔
        { name, number } ∈ definition.eras := by
    intro name number
    rw [eraNumber?_eq_some_iff hnodup, ofDefinition_eq h]
  constructor
  case eraNumber?_listed =>
    intro era hera
    exact hnumber.mpr hera
  case eraNumber?_unlisted =>
    intro name hname
    rw [Option.eq_none_iff_forall_ne_some]
    intro number hsome
    exact hname (List.mem_map.mpr ⟨_, hnumber.mp hsome, rfl⟩)
  case eraNumber?_injective =>
    intro name other number hname hother
    have hera := List.inj_on_of_nodup_map h.eraNumbers_nodup (hnumber.mp hname)
      (hnumber.mp hother) rfl
    exact congrArg Era.name hera
  case hasTech_iff =>
    intro name
    rw [ofDefinition_eq h]
    exact List.contains_iff_mem
  case hasPolicy_iff =>
    intro name
    rw [ofDefinition_eq h]
    exact List.contains_iff_mem
  all_goals rw [ofDefinition_eq h]

/-! ## Loading -/

/-- A ruleset is loaded exactly if the reader makes a sound definition of the text of the
    file, and it is the ruleset of this definition. -/
theorem load_eq_ok_iff {read? : String → Option RulesetDefinition} {path : String}
    {bytes : Option ByteArray} {ruleset : Ruleset} :
    Ruleset.load read? path bytes = .ok ruleset ↔
      ∃ text definition, bytes.bind String.fromUTF8? = some text ∧
        read? text = some definition ∧ definition.IsSound ∧ ruleset = ofDefinition definition := by
  have hmap : Ruleset.load read? path bytes = .ok ruleset ↔
      ∃ definition, RulesetDefinition.load read? path bytes = .ok definition ∧
        ofDefinition definition = ruleset := by
    unfold Ruleset.load
    cases RulesetDefinition.load read? path bytes with
    | error error => simp [Functor.map, Except.map]
    | ok definition => simp [Functor.map, Except.map]
  rw [hmap]
  unfold RulesetDefinition.load
  simp only [loadDefinition_eq_ok_iff, RulesetDefinition.problems_eq_nil_iff]
  constructor
  · rintro ⟨definition, ⟨text, hdecode, hread, hsound⟩, rfl⟩
    exact ⟨text, definition, hdecode, hread, hsound, rfl⟩
  · rintro ⟨text, definition, hdecode, hread, hsound, rfl⟩
    exact ⟨definition, ⟨text, hdecode, hread, hsound⟩, rfl⟩

/-- **Validation makes loading lossless.** A definition has no problems exactly if no name
    is blank and no era name, era number, tech or policy is used twice. Then its ruleset
    keeps everything that is written. Whatever is in the file, and whatever the reader makes
    of it, a ruleset is only loaded if it is the ruleset of such a definition, and then it
    is. -/
theorem validated_is_lossless :
    (∀ definition : RulesetDefinition, definition.problems = [] ↔ definition.IsSound) ∧
    (∀ definition : RulesetDefinition, definition.problems = [] →
      (ofDefinition definition).Keeps definition) ∧
    ∀ (read? : String → Option RulesetDefinition) (path : String) (bytes : Option ByteArray)
      (ruleset : Ruleset),
      Ruleset.load read? path bytes = .ok ruleset ↔
        ∃ text definition, bytes.bind String.fromUTF8? = some text ∧
          read? text = some definition ∧ definition.IsSound ∧
          ruleset = ofDefinition definition ∧ ruleset.Keeps definition := by
  refine ⟨fun _ => RulesetDefinition.problems_eq_nil_iff, ?keeps, ?load⟩
  case keeps =>
    intro definition hproblems
    exact keeps_ofDefinition (RulesetDefinition.problems_eq_nil_iff.mp hproblems)
  case load =>
    intro read? path bytes ruleset
    rw [load_eq_ok_iff]
    constructor
    · rintro ⟨text, definition, hdecode, hread, hsound, rfl⟩
      exact ⟨text, definition, hdecode, hread, hsound, rfl, keeps_ofDefinition hsound⟩
    · rintro ⟨text, definition, hdecode, hread, hsound, heq, -⟩
      exact ⟨text, definition, hdecode, hread, hsound, heq⟩

/-- Eras whose numbers go down, with names that differ in case and in blanks. -/
theorem validated_is_lossless_eras :
    let definition : RulesetDefinition :=
      { name := "Test"
        eras := [{ name := "Ancient era", number := 1 }, { name := "ancient era ", number := -1 }]
        techs := ["Writing", "writing"]
        policies := ["Writing"] }
    definition.problems = [] ∧ (ofDefinition definition).Keeps definition := by
  intro definition
  have hproblems : definition.problems = [] := by decide
  obtain ⟨-, hkeeps, -⟩ := validated_is_lossless
  exact ⟨hproblems, hkeeps definition hproblems⟩

end Ruleset

end EffectText
