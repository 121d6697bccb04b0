import EffectText.Proofs.Condition.Meaning
import EffectText.Proofs.Report.Issues

/-! # The parameters that conditions ask for

    The rule of a kind of condition asks for parameters by their places. These are written
    down here (`ConditionKind.asked`), far from the authoring text, whose slots fix how many
    parameters a recognized condition has.

    * `ConditionKind.asked_iff_dependsOn`: the places are exactly those that the verdict
      depends on, so the list neither leaves out a place nor has one too many.
    * `ConditionKind.asked_iff_lt_slotCount`: they are exactly the slots of the kind.
    * `Statement.recognized_has_what_is_asked`: a recognized condition has a parameter in
      every place that is asked for.
-/

namespace EffectText

open Text

variable {W : World}

namespace ConditionKind

/-! ## What the rules ask for -/

/-- **What a kind of condition asks for**: the places of the parameters that its rule looks
    up. -/
def asked : ConditionKind → List Nat
  -- the state of the civilization
  | .atWar | .notAtWar | .happy | .goldenAge => []
  | .happinessBetween => [0, 1]
  | .happinessBelow => [0]
  | .beforeEra | .fromEra | .duringEra => [0]
  | .techKnown | .techUnknown | .policyAdopted | .policyNotAdopted => [0]
  -- the state of the city
  | .specialists | .followers => [0]
  | .garrisoned => []
  -- combat
  | .versusCity | .versusLargerCiv | .attacking | .defending => []
  | .versusUnits | .ourUnit | .healthAbove | .healthBelow => [0]
  -- tiles
  | .inTiles | .fightingInTiles | .adjacentUnit => [0]
  | .inBothTiles => [0, 1]
  | .foreignContinent => []
  | .neighborTiles => [2, 0, 1]
  | .neighborBothTiles => [2, 3, 0, 1]
  -- regions of the map
  | .waterMap => []
  | .inRegion | .outsideRegion => [0]

/-- Two lists of parameters **differ at most at** a place. -/
def DifferAt (place : Nat) (params others : List String) : Prop :=
  ∀ other, other ≠ place → params[other]? = others[other]?

/-- A kind **depends on** the parameter at a place: in some snapshot of some world, a change
    at this place alone changes the verdict. -/
def DependsOn (kind : ConditionKind) (place : Nat) : Prop :=
  ∃ (W : World) (s : Snapshot W) (params others : List String),
    DifferAt place params others ∧ kind.holds params s ≠ kind.holds others s

/-- **Frame**: a rule has one verdict on all parameters that are the same where it asks. -/
theorem holds_eq_of_asked {kind : ConditionKind} {params others : List String}
    (h : ∀ place ∈ kind.asked, params[place]? = others[place]?) (s : Snapshot W) :
    kind.holds params s = kind.holds others s := by
  cases kind <;>
    simp only [asked, List.forall_mem_cons] at h <;>
    simp only [holds, comparesEra, countsNeighbors, paramInt?, h]

theorem asked_of_dependsOn {kind : ConditionKind} {place : Nat} (h : kind.DependsOn place) :
    place ∈ kind.asked := by
  by_contra hnot
  obtain ⟨W, s, params, others, hsame, hne⟩ := h
  apply hne
  apply holds_eq_of_asked
  intro other hother
  exact hsame other (ne_of_mem_of_not_mem hother hnot)

/-! ## Every place that is asked for matters -/

/-- Parameters that every kind can use: small integers, and names in the sample world. -/
def sample : List String := ["1", "2", "3", "4"]

/-- A snapshot with all parts, which all names in the sample are found in. Amounts in it are
    at `level`. -/
def sampleSnapshot (level : Int) : Snapshot Plain.world where
  civ := some
    { ruleset := { name := "", eras := [{ name := "1", number := 1 }] }
      happiness := level
      era := level
      techs := sample
      policies := sample }
  city := some
    { specialists := level
      followers := level
      center := { neighbors := [{ filters := sample }] } }
  ourCombatant := some { categories := sample, health := level }
  theirCombatant := some { categories := sample }
  attackedTile := some
    { filters := sample
      neighbors := [{ unit := some { filters := sample, tile := {} } }] }
  region := some { type := "1", continent := 0 }

/-- The level at which the verdict on the sample turns when a parameter is blanked. -/
def sampleLevel : ConditionKind → Int
  | .happinessBelow | .healthBelow | .beforeEra => 0
  | .healthAbove => 2
  | _ => 1

/-- Blanking a parameter of the sample changes the verdict of every kind that asks for it. -/
theorem holds_sample_ne (kind : ConditionKind) : ∀ place ∈ kind.asked,
    kind.holds sample (sampleSnapshot kind.sampleLevel) ≠
      kind.holds (sample.set place "") (sampleSnapshot kind.sampleLevel) := by
  cases kind <;> decide

theorem dependsOn_of_asked {kind : ConditionKind} {place : Nat} (h : place ∈ kind.asked) :
    kind.DependsOn place := by
  refine ⟨Plain.world, sampleSnapshot kind.sampleLevel, sample, sample.set place "", ?_,
    holds_sample_ne kind place h⟩
  intro other hne
  exact (List.getElem?_set_ne hne.symm).symm

/-- **Exactness**: a rule asks for the parameters that its verdict depends on. -/
theorem asked_iff_dependsOn {kind : ConditionKind} {place : Nat} :
    place ∈ kind.asked ↔ kind.DependsOn place :=
  ⟨dependsOn_of_asked, asked_of_dependsOn⟩

end ConditionKind

/-! ## Slots of the authoring text -/

/-- Slots are counted on the characters of the text. -/
theorem Kind.slotCount_of_text {kind : Kind} {chars : List Char}
    (h : kind.entry.text = String.ofList chars) :
    kind.slotCount = (Clause.paramChars chars).length := by
  simp [Kind.slotCount, Clause.params, h]

namespace ConditionKind

theorem slotCount_condition (kind : ConditionKind) :
    (Kind.condition kind).slotCount = kind.asked.length := by
  cases kind <;> exact (Kind.slotCount_of_text rfl).trans (by decide)

/-- A rule asks for the parameters in the slots of its authoring text, and for no others. -/
theorem asked_iff_lt_slotCount {kind : ConditionKind} {place : Nat} :
    place ∈ kind.asked ↔ place < (Kind.condition kind).slotCount := by
  rw [slotCount_condition]
  cases kind <;> simp [asked] <;> omega

end ConditionKind

/-! ## Recognized conditions -/

namespace Statement

/-- A condition **has what its kind asks for**. -/
structure HasAsked (statement : Statement) (kind : ConditionKind) : Prop where
  /-- The rule of the kind decides it, from its parameters. -/
  decided : ∀ {W : World} (s : Snapshot W),
    Registry.standard.evaluate statement s = kind.holds statement.params s
  /-- It has one parameter for each slot of the kind. -/
  length_params : statement.params.length = (Kind.condition kind).slotCount
  /-- Every place that the rule asks for is the place of a slot. -/
  lt_slotCount : ∀ place ∈ kind.asked, place < (Kind.condition kind).slotCount
  /-- A parameter that the rule asks for is there, so it can only fail to be an integer by
      its own text. -/
  present : ∀ place ∈ kind.asked, ∃ param, statement.params[place]? = some param ∧
    paramInt? statement.params place = int32? (trim param.toList)
  /-- No further parameters would change a verdict. -/
  complete : ∀ {W : World} (s : Snapshot W) (further : List String),
    kind.holds (statement.params ++ further) s = kind.holds statement.params s
  /-- If the rule asks for a parameter, an audit has a name to look up in the ruleset. -/
  named : kind.asked ≠ [] → ∃ name, statement.params.head? = some name ∧
    ∀ (ruleset : Ruleset) (whole : Statement),
      conditionIssues ruleset whole statement =
        ((ruleset.missing? kind name).map (Issue.unknownReference whole)).toList

/-- A condition of a kind has a parameter for each slot of the kind. -/
theorem length_params_condition {text : String} {kind : Kind}
    (h : (condition text).kind = some kind) :
    (condition text).params.length = kind.slotCount := by
  obtain ⟨-, params, hwrites⟩ := kind_parse_eq_some_iff.mp h
  have hparams : (condition text).params = params := params_parse.trans hwrites.params_eq
  rw [hparams]
  exact hwrites.length_eq

theorem hasAsked_condition {text : String} {kind : ConditionKind}
    (h : (condition text).kind = some (.condition kind)) : (condition text).HasAsked kind := by
  have hlength : (condition text).params.length = (Kind.condition kind).slotCount :=
    length_params_condition h
  -- what is asked for is below the number of slots, and so of parameters
  have hlt : ∀ place ∈ kind.asked, place < (condition text).params.length := by
    intro place hplace
    rw [hlength]
    exact ConditionKind.asked_iff_lt_slotCount.mp hplace
  constructor
  case decided => exact fun s => Registry.evaluate_standard_of_kind h s
  case length_params => exact hlength
  case lt_slotCount => exact fun place hplace => ConditionKind.asked_iff_lt_slotCount.mp hplace
  case present =>
    intro place hplace
    have hparam := List.getElem?_eq_getElem (hlt place hplace)
    exact ⟨_, hparam, by rw [paramInt?, hparam, Option.bind_some]⟩
  case complete =>
    intro W s further
    apply ConditionKind.holds_eq_of_asked
    intro place hplace
    exact List.getElem?_append_left (hlt place hplace)
  case named =>
    intro hasked
    obtain ⟨place, hplace⟩ := List.exists_mem_of_ne_nil _ hasked
    have hpos := hlt place hplace
    obtain ⟨name, others, hparams⟩ :=
      List.exists_cons_of_length_pos (Nat.lt_of_le_of_lt (Nat.zero_le place) hpos)
    refine ⟨name, by rw [hparams, List.head?_cons], ?_⟩
    intro ruleset whole
    simp only [conditionIssues, h, hparams, List.head?_cons, Option.bind_some]
    cases ruleset.missing? kind name <;> rfl

/-- **Parameters.** A text that is parsed as a condition and has a kind has a kind of
    condition, whose rule decides it. It has as many parameters as the authoring text of the
    kind has slots, and one in every place that the rule asks for. The rule depends on these
    places and on no others. -/
theorem recognized_has_what_is_asked {text : String} {kind : Kind}
    (h : (condition text).kind = some kind) :
    ∃ asker : ConditionKind, kind = .condition asker ∧
      (∀ place, place ∈ asker.asked ↔ asker.DependsOn place) ∧
      (condition text).HasAsked asker := by
  have hhalf : kind.half = .condition := (kind_parse_eq_some_iff.mp h).1
  cases kind with
  | effect _ => simp [Kind.half] at hhalf
  | condition asker =>
    exact ⟨asker, rfl, fun place => ConditionKind.asked_iff_dependsOn, hasAsked_condition h⟩

/-- A condition inside a parameter is dropped first: the parameter is there, and blank. -/
theorem recognized_has_what_is_asked_blank :
    (condition "in [<hills>] [River] tiles").kind = some (.condition .inBothTiles) ∧
    (condition "in [<hills>] [River] tiles").params = ["", "River"] ∧
    (condition "in [<hills>] [River] tiles").HasAsked .inBothTiles := by
  have hwrites : (Kind.condition .inBothTiles).Writes ["", "River"]
      (Clause.main "in [<hills>] [River] tiles") := Kind.writes_iff.mpr (by decide +kernel)
  have hkind : (condition "in [<hills>] [River] tiles").kind = some (.condition .inBothTiles) :=
    kind_parse_eq_some_iff.mpr ⟨rfl, _, hwrites⟩
  obtain ⟨asker, heq, -, hasked⟩ := recognized_has_what_is_asked hkind
  obtain rfl := Kind.condition.inj heq
  exact ⟨hkind, params_parse.trans hwrites.params_eq, hasked⟩

end Statement

end EffectText
