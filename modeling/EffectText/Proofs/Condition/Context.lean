import EffectText.Proofs.Statement.Verdict

/-! # Less and more context

    Every rule fails closed, so a snapshot without anything in it is as good as none
    (`Statement.applies_without_context`).

    A snapshot lies **below** another one that says the same and possibly more. What
    applies in a snapshot applies in all above it (`Statement.applies_of_below`), except
    where more context changes the question:

    * An attacked tile takes the place of the tile of the unit.
    * Once a civilization is known, the tiles around a city are counted by the filters
      that it may use, and the count has an upper bound.

    Between a snapshot and a larger one, a condition minds nothing else
    (`ConditionKind.Means.of_grows`).
-/

namespace EffectText

variable {W : World}

/-! ## Nothing known -/

/-- No kind of condition means anything true where nothing is known. -/
theorem ConditionKind.not_means_empty (kind : ConditionKind) (slots : List String) :
    ¬ kind.Means slots (Snapshot.empty : Snapshot W) := by
  cases kind <;> simp [Means, Snapshot.empty, Snapshot.TakesPlaceOn]

/-- **No context.** The empty snapshot and no snapshot give a text the same verdict: it
    applies exactly if it has no conditions. The rule of every kind of condition is false
    in the empty snapshot, whatever the parameters are. -/
theorem Statement.applies_without_context (text : String) :
    (effect text).applies (some (Snapshot.empty : Snapshot W)) =
      (effect text).applies (none : Option (Snapshot W)) ∧
    ((effect text).applies (none : Option (Snapshot W)) = true ↔
      (effect text).conditions = []) ∧
    ∀ (kind : ConditionKind) (params : List String),
      kind.holds params (Snapshot.empty : Snapshot W) = false := by
  refine ⟨?same, ?nothing, ?rules⟩
  case same =>
    rw [Bool.eq_iff_iff, effect, applies_parse_some_iff, applies, appliesBy_parse_none,
      List.isEmpty_iff, List.eq_nil_iff_forall_not_mem]
    constructor
    · intro hall clause hclause
      obtain ⟨kind, -, hmeans⟩ := hall clause hclause
      exact kind.not_means_empty _ hmeans
    · intro hnone clause hclause
      exact absurd hclause (hnone clause)
  case nothing =>
    unfold applies appliesBy
    rw [List.isEmpty_iff]
  case rules =>
    intro kind params
    rw [Bool.eq_false_iff, ne_eq, ConditionKind.holds_iff_means]
    exact kind.not_means_empty params

/-! ## More known -/

/-- **Welcoming world**: a tile that passes a filter for nobody in particular passes it
    for every civilization. -/
def World.IsWelcoming (W : World) : Prop :=
  ∀ tile filter civ,
    W.tilePasses tile filter none = true → W.tilePasses tile filter (some civ) = true

theorem Plain.world_isWelcoming : Plain.world.IsWelcoming := by
  intro tile filter civ hpasses
  have hlisted : tile.filters.contains filter = true := by
    simpa [Plain.world, Tile.passes] using hpasses
  show (tile.filters.contains filter || _) = true
  rw [hlisted, Bool.true_or]

namespace Snapshot

/-- **Below**: every part of the first snapshot is in the second one, with the same
    value. -/
structure Below (s s' : Snapshot W) : Prop where
  civ : ∀ civ ∈ s.civ, civ ∈ s'.civ
  city : ∀ city ∈ s.city, city ∈ s'.city
  ourCombatant : ∀ ours ∈ s.ourCombatant, ours ∈ s'.ourCombatant
  theirCombatant : ∀ theirs ∈ s.theirCombatant, theirs ∈ s'.theirCombatant
  unit : ∀ unit ∈ s.unit, unit ∈ s'.unit
  attackedTile : ∀ tile ∈ s.attackedTile, tile ∈ s'.attackedTile
  combatSide : ∀ side ∈ s.combatSide, side ∈ s'.combatSide
  region : ∀ region ∈ s.region, region ∈ s'.region

/-- **Growth** that no condition minds: the larger snapshot answers all questions that
    the smaller one could answer in the same way. -/
structure Grows (s s' : Snapshot W) : Prop extends Below s s' where
  /-- The place stays where it is. -/
  place : ∀ tile, s.TakesPlaceOn tile → s'.TakesPlaceOn tile
  /-- No tile loses a filter. -/
  filters : ∀ tile filter,
    W.tilePasses tile filter s.civ = true → W.tilePasses tile filter s'.civ = true
  /-- The tiles around a city are counted for the same civilization, or still for none. -/
  asker : s.city.isSome = true → s.civ = s'.civ

/-- In a welcoming world, growth can only go wrong in two ways. -/
theorem Below.grows {s s' : Snapshot W} (h : s.Below s') (hworld : W.IsWelcoming)
    (hplace : ¬ (s.unit.isSome = true ∧ s.attackedTile = none ∧ s'.attackedTile.isSome = true))
    (hasker : ¬ (s.city.isSome = true ∧ s.civ = none ∧ s'.civ.isSome = true)) :
    s.Grows s' where
  toBelow := h
  place := by
    rintro tile (hattacked | ⟨hnone, unit, hunit, htile⟩)
    · exact .inl (h.attackedTile tile hattacked)
    · have hstill : s'.attackedTile = none := by
        by_contra hsome
        exact hplace ⟨Option.isSome_of_mem hunit, hnone, Option.isSome_iff_ne_none.mpr hsome⟩
      exact .inr ⟨hstill, unit, h.unit unit hunit, htile⟩
  filters := by
    intro tile filter hpasses
    match hciv : s.civ with
    | some civ =>
      have hstill : s'.civ = some civ := h.civ civ hciv
      rwa [hstill, ← hciv]
    | none =>
      rw [hciv] at hpasses
      match s'.civ with
      | none => exact hpasses
      | some civ => exact hworld tile filter civ hpasses
  asker := by
    intro hcity
    match hciv : s.civ with
    | some civ => exact (h.civ civ hciv).symm
    | none =>
      by_contra hne
      exact hasker ⟨hcity, hciv, Option.isSome_iff_ne_none.mpr fun hnone => hne hnone.symm⟩

/-- The first way: the tile that comes under attack lacks the filter. -/
example :
    ConditionKind.inTiles.holds (W := Plain.world) ["Hill"]
      { unit := some { tile := { filters := ["Hill"] } } } = true ∧
    ConditionKind.inTiles.holds (W := Plain.world) ["Hill"]
      { unit := some { tile := { filters := ["Hill"] } }, attackedTile := some {} } = false := by
  decide

/-- The second way: a filter of the civilization takes the count over its upper bound. -/
example :
    ConditionKind.neighborTiles.holds (W := Plain.world) ["0", "0", "Hill"]
      { city := some { center := { neighbors := [{ civFilters := [("Rome", "Hill")] }] } } } =
        true ∧
    ConditionKind.neighborTiles.holds (W := Plain.world) ["0", "0", "Hill"]
      { city := some { center := { neighbors := [{ civFilters := [("Rome", "Hill")] }] } },
        civ := some { name := "Rome" } } = false := by
  decide

/-- A snapshot of a civilization and a city grows into every snapshot above it that
    knows no other civilization: it says nothing about tiles. -/
theorem Below.grows_ofCivAndCity {civ : Option W.Civ} {city : Option W.City}
    {s' : Snapshot W} (h : (ofCivAndCity civ city).Below s') (hciv : s'.civ = civ) :
    (ofCivAndCity civ city).Grows s' where
  toBelow := h
  place := by
    rintro tile (hattacked | ⟨-, unit, hunit, -⟩)
    · simp [ofCivAndCity] at hattacked
    · simp [ofCivAndCity] at hunit
  filters := by
    intro tile filter hpasses
    rw [hciv]
    exact hpasses
  asker := fun _ => hciv.symm

end Snapshot

/-- **Growth keeps meanings**: a condition that means something true goes on doing so. -/
theorem ConditionKind.Means.of_grows {kind : ConditionKind} {slots : List String}
    {s s' : Snapshot W} (hmeans : kind.Means slots s) (h : s.Grows s') :
    kind.Means slots s' := by
  cases kind
  -- one part, asked something that only depends on the part
  case atWar | notAtWar | happy | goldenAge | beforeEra | fromEra | duringEra =>
    obtain ⟨civ, hciv, hasked⟩ := hmeans
    exact ⟨civ, h.civ civ hciv, hasked⟩
  case happinessBelow | techKnown | techUnknown | policyAdopted | policyNotAdopted =>
    obtain ⟨slot, hslot, civ, hciv, hasked⟩ := hmeans
    exact ⟨slot, hslot, civ, h.civ civ hciv, hasked⟩
  case happinessBetween =>
    obtain ⟨low, high, hlow, hhigh, civ, hciv, hasked⟩ := hmeans
    exact ⟨low, high, hlow, hhigh, civ, h.civ civ hciv, hasked⟩
  case garrisoned =>
    obtain ⟨city, hcity, hasked⟩ := hmeans
    exact ⟨city, h.city city hcity, hasked⟩
  case specialists | followers =>
    obtain ⟨least, hleast, city, hcity, hasked⟩ := hmeans
    exact ⟨least, hleast, city, h.city city hcity, hasked⟩
  case versusCity =>
    obtain ⟨theirs, htheirs, hasked⟩ := hmeans
    exact ⟨theirs, h.theirCombatant theirs htheirs, hasked⟩
  case versusUnits =>
    obtain ⟨filter, hfilter, theirs, htheirs, hasked⟩ := hmeans
    exact ⟨filter, hfilter, theirs, h.theirCombatant theirs htheirs, hasked⟩
  case healthAbove | healthBelow =>
    obtain ⟨limit, hlimit, ours, hours, hasked⟩ := hmeans
    exact ⟨limit, hlimit, ours, h.ourCombatant ours hours, hasked⟩
  case attacking => exact h.combatSide .attack hmeans
  case defending => exact h.combatSide .defend hmeans
  case waterMap =>
    obtain ⟨region, hregion, hasked⟩ := hmeans
    exact ⟨region, h.region region hregion, hasked⟩
  case inRegion | outsideRegion =>
    obtain ⟨type, htype, region, hregion, hasked⟩ := hmeans
    exact ⟨type, htype, region, h.region region hregion, hasked⟩
  -- two parts
  case ourUnit =>
    obtain ⟨filter, hfilter, ⟨ours, hours, hasked⟩ | ⟨unit, hunit, hasked⟩⟩ := hmeans
    · exact ⟨filter, hfilter, .inl ⟨ours, h.ourCombatant ours hours, hasked⟩⟩
    · exact ⟨filter, hfilter, .inr ⟨unit, h.unit unit hunit, hasked⟩⟩
  case versusLargerCiv =>
    obtain ⟨theirs, htheirs, civ, hciv, hasked⟩ := hmeans
    exact ⟨theirs, h.theirCombatant theirs htheirs, civ, h.civ civ hciv, hasked⟩
  case foreignContinent =>
    obtain ⟨unit, hunit, civ, hciv, hasked⟩ := hmeans
    exact ⟨unit, h.unit unit hunit, civ, h.civ civ hciv, hasked⟩
  -- a place, and filters that a civilization may use
  case inTiles =>
    obtain ⟨filter, hfilter, tile, htile, hpasses⟩ := hmeans
    exact ⟨filter, hfilter, tile, h.place tile htile, h.filters tile filter hpasses⟩
  case inBothTiles =>
    obtain ⟨first, hfirst, second, hsecond, tile, htile, hpasses, hpasses'⟩ := hmeans
    exact ⟨first, hfirst, second, hsecond, tile, h.place tile htile,
      h.filters tile first hpasses, h.filters tile second hpasses'⟩
  case fightingInTiles =>
    obtain ⟨filter, hfilter, tile, htile, hpasses⟩ := hmeans
    exact ⟨filter, hfilter, tile, h.attackedTile tile htile, h.filters tile filter hpasses⟩
  case adjacentUnit =>
    obtain ⟨filter, hfilter, civ, hciv, tile, htile, hasked⟩ := hmeans
    exact ⟨filter, hfilter, civ, h.civ civ hciv, tile, h.place tile htile, hasked⟩
  -- counts: with an upper bound, no filter may come or go
  case neighborTiles =>
    obtain ⟨low, high, hlow, hhigh, filter, hfilter, city, hcity, hcount⟩ := hmeans
    rw [h.asker (Option.isSome_of_mem hcity)] at hcount
    exact ⟨low, high, hlow, hhigh, filter, hfilter, city, h.city city hcity, hcount⟩
  case neighborBothTiles =>
    obtain ⟨low, high, hlow, hhigh, first, hfirst, second, hsecond, city, hcity, hcount⟩ :=
      hmeans
    rw [h.asker (Option.isSome_of_mem hcity)] at hcount
    exact ⟨low, high, hlow, hhigh, first, hfirst, second, hsecond, city, h.city city hcity,
      hcount⟩

namespace Statement

/-- What applies goes on applying under growth. -/
theorem applies_of_grows {text : String} {s s' : Snapshot W} (h : s.Grows s')
    (happlies : (effect text).applies (some s) = true) :
    (effect text).applies (some s') = true := by
  rw [effect, applies_parse_some_iff] at happlies ⊢
  intro clause hclause
  obtain ⟨kind, hkind, hmeans⟩ := happlies clause hclause
  exact ⟨kind, hkind, hmeans.of_grows h⟩

/-- **More context.** In a welcoming world, a text that applies in a snapshot applies in
    every snapshot above it, unless a tile comes under attack where the tile of a unit
    counted, or a civilization becomes known beside a city. In any world, a text that
    applies to a civilization and a city alone applies in every snapshot above that knows
    no other civilization. -/
theorem applies_of_below (text : String) :
    (W.IsWelcoming → ∀ s s' : Snapshot W, s.Below s' →
      ¬ (s.unit.isSome = true ∧ s.attackedTile = none ∧ s'.attackedTile.isSome = true) →
      ¬ (s.city.isSome = true ∧ s.civ = none ∧ s'.civ.isSome = true) →
      (effect text).applies (some s) = true → (effect text).applies (some s') = true) ∧
    ∀ (civ : Option W.Civ) (city : Option W.City) (s' : Snapshot W),
      (Snapshot.ofCivAndCity civ city).Below s' → s'.civ = civ →
      (effect text).appliesTo civ city = true → (effect text).applies (some s') = true := by
  constructor
  · intro hworld s s' hbelow hplace hasker happlies
    exact applies_of_grows (hbelow.grows hworld hplace hasker) happlies
  · intro civ city s' hbelow hciv happlies
    exact applies_of_grows (hbelow.grows_ofCivAndCity hciv) happlies

/-- A unit on a hill, and then a city and a civilization at once; a city alone, and then
    a unit, a tile under attack and a region. -/
theorem applies_of_below_tiles :
    (Plain.world.IsWelcoming ∧
      Snapshot.Below (W := Plain.world) { unit := some { tile := { filters := ["Hill"] } } }
        { unit := some { tile := { filters := ["Hill"] } }, city := some {}, civ := some {} } ∧
      (effect "[+1 Gold] <in [Hill] tiles>").applies (W := Plain.world)
        (some { unit := some { tile := { filters := ["Hill"] } } }) = true ∧
      (effect "[+1 Gold] <in [Hill] tiles>").applies (W := Plain.world)
        (some { unit := some { tile := { filters := ["Hill"] } }, city := some {},
                civ := some {} }) = true) ∧
    Snapshot.Below (W := Plain.world) (.ofCivAndCity none (some {}))
      { city := some {}, unit := some { tile := {} }, attackedTile := some {},
        region := some { type := "Desert", continent := 1 } } ∧
    (effect "[+1 Gold] <with [0] to [0] neighboring [Hill] tiles>").appliesTo (W := Plain.world)
      none (some {}) = true ∧
    (effect "[+1 Gold] <with [0] to [0] neighboring [Hill] tiles>").applies (W := Plain.world)
      (some { city := some {}, unit := some { tile := {} }, attackedTile := some {},
              region := some { type := "Desert", continent := 1 } }) = true := by
  have hunit : Snapshot.Below (W := Plain.world)
      { unit := some { tile := { filters := ["Hill"] } } }
      { unit := some { tile := { filters := ["Hill"] } }, city := some {}, civ := some {} } := by
    constructor <;> simp
  have hcity : Snapshot.Below (W := Plain.world) (.ofCivAndCity none (some {}))
      { city := some {}, unit := some { tile := {} }, attackedTile := some {},
        region := some { type := "Desert", continent := 1 } } := by
    constructor <;> simp [Snapshot.ofCivAndCity]
  have hhill : (effect "[+1 Gold] <in [Hill] tiles>").applies (W := Plain.world)
      (some { unit := some { tile := { filters := ["Hill"] } } }) = true := by
    have hconditions : Clause.conditions "[+1 Gold] <in [Hill] tiles>" =
        [(Kind.condition .inTiles).written ["Hill"]] := by decide
    rw [applies_iff_means hconditions (by decide) (by decide)]
    exact ⟨"Hill", rfl, { filters := ["Hill"] }, .inr ⟨rfl, _, rfl, rfl⟩, by decide⟩
  have hnone : (effect "[+1 Gold] <with [0] to [0] neighboring [Hill] tiles>").appliesTo
      (W := Plain.world) none (some {}) = true := by
    have hconditions : Clause.conditions "[+1 Gold] <with [0] to [0] neighboring [Hill] tiles>" =
        [(Kind.condition .neighborTiles).written ["0", "0", "Hill"]] := by decide
    have hlow : IntSlot ["0", "0", "Hill"] 0 0 := paramInt?_eq_some_iff.mp (by decide)
    have hhigh : IntSlot ["0", "0", "Hill"] 1 0 := paramInt?_eq_some_iff.mp (by decide)
    rw [appliesTo, applies_iff_means hconditions (by decide) (by decide)]
    exact ⟨0, 0, hlow, hhigh, "Hill", rfl, {}, rfl, by decide⟩
  obtain ⟨happlies, -⟩ := applies_of_below (W := Plain.world) "[+1 Gold] <in [Hill] tiles>"
  obtain ⟨-, happliesTo⟩ := applies_of_below (W := Plain.world)
    "[+1 Gold] <with [0] to [0] neighboring [Hill] tiles>"
  exact ⟨⟨Plain.world_isWelcoming, hunit, hhill,
    happlies Plain.world_isWelcoming _ _ hunit (by simp) (by simp) hhill⟩,
    hcity, hnone, happliesTo _ _ _ hcity rfl hnone⟩

end Statement

end EffectText
