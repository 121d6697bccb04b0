import EffectText.Proofs.Ruleset.Lossless
import Mathlib.Data.Finset.Card

/-! # Every problem is counted once

    The checks of a ruleset go through its lists and keep what they have passed: the names,
    and the eras, the closest first. What they find at an entry depends on the entries in front
    of it only, so the problems of a list are what is found **along** it
    (`RulesetDefinition.problems_eq`). An entry without a name is a problem and is not kept.

    * **Step**: an entry is a repeat exactly if its key occurs among the entries in front of it
      that have a name (`RulesetDefinition.nameProblemsAfter`,
      `RulesetDefinition.eraProblemsAfter`).
    * **Run**: the repeats along a list and its different keys are together as many as its
      entries with a name (`countP_along_add_card`).
    * `RulesetDefinition.problems_counted_once`: the order of the problems, how many there are
      of each sort, and which two eras a shared number is reported for.
-/

namespace EffectText

open Text

/-! ## Going along a list -/

section Along

variable {α β γ : Type}

/-- **Along** a list that stands behind `before`: what each entry gives, with everything in
    front of it. -/
def along (f : List α → α → List γ) (before : List α) : List α → List γ
  | [] => []
  | a :: rest => f before a ++ along f (before ++ [a]) rest

variable {f : List α → α → List γ}

/-- What is found along a list is found at one place, where the list can be cut. -/
theorem mem_along_iff {before l : List α} {c : γ} :
    c ∈ along f before l ↔ ∃ mid a later, l = mid ++ a :: later ∧ c ∈ f (before ++ mid) a := by
  induction l generalizing before with
  | nil => simp [along]
  | cons b rest ih =>
    rw [along, List.mem_append, ih]
    constructor
    · rintro (hc | ⟨mid, a, later, rfl, hc⟩)
      · exact ⟨[], b, rest, rfl, by simpa using hc⟩
      · exact ⟨b :: mid, a, later, rfl, by simpa using hc⟩
    · rintro ⟨mid, a, later, heq, hc⟩
      cases mid with
      | nil =>
        obtain ⟨rfl, rfl⟩ := List.cons.inj heq
        exact .inl (by simpa using hc)
      | cons d mid =>
        obtain ⟨rfl, rfl⟩ := List.cons.inj heq
        exact .inr ⟨mid, a, later, rfl, by simpa using hc⟩

variable {p : γ → Bool}

/-- What each entry gives by itself is counted entry by entry. -/
theorem countP_along {q : α → Bool}
    (hf : ∀ before a, (f before a).countP p = if q a then 1 else 0) (before l : List α) :
    (along f before l).countP p = l.countP q := by
  induction l generalizing before with
  | nil => rfl
  | cons a rest ih => rw [along, List.countP_append, hf, ih, List.countP_cons, Nat.add_comm]

variable [DecidableEq β]

/-- **Run**: repeats and different keys together are as many as the entries that are kept. -/
theorem countP_along_add_card (keep : α → Bool) (key : α → β)
    (hf : ∀ before a, (f before a).countP p =
      if keep a = true ∧ key a ∈ (before.filter keep).map key then 1 else 0)
    (before l : List α) :
    (along f before l).countP p + (((before ++ l).filter keep).map key).toFinset.card =
      ((before.filter keep).map key).toFinset.card + (l.filter keep).length := by
  induction l generalizing before with
  | nil => simp [along]
  | cons a rest ih =>
    have hrest := ih (before ++ [a])
    rw [List.append_assoc, List.singleton_append] at hrest
    rw [along, List.countP_append, hf]
    by_cases hkeep : keep a = true
    · have hkeys : (((before ++ [a]).filter keep).map key).toFinset =
          insert (key a) ((before.filter keep).map key).toFinset := by
        simp [hkeep]
      rw [hkeys] at hrest
      rw [List.filter_cons_of_pos hkeep, List.length_cons]
      -- a key that was there before makes a repeat, and any other key is one more
      by_cases hkey : key a ∈ (before.filter keep).map key
      · rw [Finset.insert_eq_self.mpr (List.mem_toFinset.mpr hkey)] at hrest
        rw [if_pos ⟨hkeep, hkey⟩]
        omega
      · rw [Finset.card_insert_of_notMem (by rwa [List.mem_toFinset])] at hrest
        rw [if_neg fun h => hkey h.2]
        omega
    · have hkeys : (before ++ [a]).filter keep = before.filter keep := by
        simp [hkeep]
      rw [hkeys] at hrest
      rw [List.filter_cons_of_neg hkeep, if_neg fun h => hkeep h.1]
      omega

end Along

/-! ## Problems of one place -/

/-- **Has a name**: something other than blanks. -/
def hasName (name : String) : Bool := trim name.toList ≠ []

theorem isBlankText_eq (name : String) : isBlankText name = !hasName name := by
  unfold hasName
  rw [Bool.eq_iff_iff, isBlankText_iff]
  simp

namespace Problem

/-- A blank name of the given kind. -/
def isBlankName (named : Named) : Problem → Bool
  | .blankName other _ => other == named
  | _ => false

/-- A repeated name of the given kind. -/
def isRepeatedName (named : Named) : Problem → Bool
  | .repeatedName other _ => other == named
  | _ => false

/-- Two eras with one number. -/
def isSharedEraNumber : Problem → Bool
  | .sharedEraNumber _ _ _ => true
  | _ => false

end Problem

namespace RulesetDefinition

/-- **Step**: the problems of a name in a list, behind the entries `before`. -/
def nameProblemsAfter (named : Named) (before : List String) (name : String) : List Problem :=
  if hasName name then if name ∈ before then [.repeatedName named name] else []
  else [.blankName named s!"{named.word} list"]

/-- **Closest**: the last one of the eras that have a name and this number. -/
def closest? (before : List Era) (number : Int) : Option Era :=
  (before.filter (hasName ·.name)).reverse.find? (·.number == number)

theorem closest?_eq_some_iff {before : List Era} {number : Int} {era : Era} :
    closest? before number = some era ↔ era.number = number ∧ ∃ older between,
      before.filter (hasName ·.name) = older ++ era :: between ∧
        ∀ other ∈ between, other.number ≠ number := by
  unfold closest?
  rw [List.find?_eq_some_iff_append, beq_iff_eq]
  refine and_congr_right fun _ => ?_
  constructor
  · rintro ⟨front, back, hsplit, hfront⟩
    refine ⟨back.reverse, front.reverse, ?_, ?_⟩
    · rw [← List.reverse_inj, hsplit]
      simp
    · simpa using hfront
  · rintro ⟨older, between, hsplit, hbetween⟩
    refine ⟨between.reverse, older.reverse, ?_, ?_⟩
    · rw [hsplit]
      simp
    · simpa using hbetween

theorem isSome_closest?_iff {before : List Era} {number : Int} :
    (closest? before number).isSome = true ↔
      number ∈ (before.filter (hasName ·.name)).map (·.number) := by
  unfold closest?
  rw [List.find?_isSome, List.mem_map]
  simp only [List.mem_reverse, beq_iff_eq]

/-- **Step**: the problems of an era behind the eras `before`: first its name, then its
    number. -/
def eraProblemsAfter (before : List Era) (era : Era) : List Problem :=
  if hasName era.name then
    (if era.name ∈ before.map (·.name) then [.repeatedName .era era.name] else []) ++
      ((closest? before era.number).map fun closest =>
        Problem.sharedEraNumber era.number closest.name era.name).toList
  else [.blankName .era s!"era number {era.number}"]

/-- An era with a name has one of the earlier names exactly if an era with a name has it. -/
theorem mem_names_iff {before : List Era} {era : Era} (hname : hasName era.name = true) :
    era.name ∈ (before.filter (hasName ·.name)).map (·.name) ↔
      era.name ∈ before.map (·.name) := by
  rw [List.mem_map, List.mem_map]
  constructor
  · rintro ⟨other, hother, heq⟩
    exact ⟨other, (List.mem_filter.mp hother).1, heq⟩
  · rintro ⟨other, hother, heq⟩
    exact ⟨other, List.mem_filter.mpr ⟨hother, by rwa [heq]⟩, heq⟩

/-- What the check of an era with a name finds, if it kept all such eras in front of it. -/
theorem eraProblems_eq {before : List Era} {era : Era} (hname : hasName era.name = true) :
    eraProblems (before.filter (hasName ·.name)).reverse era = eraProblemsAfter before era := by
  have hrepeated : (before.filter (hasName ·.name)).reverse.any (·.name == era.name) = true ↔
      era.name ∈ before.map (·.name) := by
    rw [← mem_names_iff hname, List.any_reverse, List.any_eq_true, List.mem_map]
    simp only [beq_iff_eq]
  have hclosest : (before.filter (hasName ·.name)).reverse.find? (·.number == era.number) =
      closest? before era.number := rfl
  unfold eraProblems eraProblemsAfter
  rw [hclosest, if_pos hname]
  simp only [hrepeated]
  cases closest? before era.number with
  | none => rfl
  | some closest => rfl

/-- **Run** over eras: what is found is found place by place. -/
theorem erasProblems_eq (before eras : List Era) :
    erasProblems (before.filter (hasName ·.name)).reverse eras =
      along eraProblemsAfter before eras := by
  induction eras generalizing before with
  | nil => rfl
  | cons era rest ih =>
    have hrest := ih (before ++ [era])
    rw [along, erasProblems, isBlankText_eq]
    cases hname : hasName era.name with
    | true =>
      have hkept : ((before ++ [era]).filter (hasName ·.name)).reverse =
          era :: (before.filter (hasName ·.name)).reverse := by
        simp [hname]
      rw [hkept] at hrest
      rw [← hrest, ← eraProblems_eq hname]
      rfl
    | false =>
      have hkept : (before ++ [era]).filter (hasName ·.name) = before.filter (hasName ·.name) := by
        simp [hname]
      rw [hkept] at hrest
      rw [← hrest]
      simp [eraProblemsAfter, hname]

/-- **Run** over names: it only matters which names were kept, not how often. -/
theorem namesProblems_eq (named : Named) {earlier before : List String} (names : List String)
    (h : ∀ name, hasName name = true → (name ∈ earlier ↔ name ∈ before)) :
    namesProblems named earlier names = along (nameProblemsAfter named) before names := by
  induction names generalizing earlier before with
  | nil => rfl
  | cons name rest ih =>
    rw [along, namesProblems, isBlankText_eq]
    cases hname : hasName name with
    | true =>
      by_cases hmem : name ∈ before
      · have hkept : ∀ other, hasName other = true →
            (other ∈ earlier ↔ other ∈ before ++ [name]) := by
          intro other hother
          rw [h other hother, List.mem_append, List.mem_singleton]
          exact ⟨.inl, fun hor => hor.elim id fun heq => heq ▸ hmem⟩
        rw [if_pos (List.contains_iff_mem.mpr ((h name hname).mpr hmem)), ih hkept]
        simp [nameProblemsAfter, hname, hmem]
      · have hkept : ∀ other, hasName other = true →
            (other ∈ name :: earlier ↔ other ∈ before ++ [name]) := by
          intro other hother
          rw [List.mem_cons, h other hother, List.mem_append, List.mem_singleton, or_comm]
        rw [if_neg fun hin => hmem ((h name hname).mp (List.contains_iff_mem.mp hin)), ih hkept]
        simp [nameProblemsAfter, hname, hmem]
    | false =>
      have hkept : ∀ other, hasName other = true → (other ∈ earlier ↔ other ∈ before ++ [name]) := by
        intro other hother
        have hne : other ≠ name := by
          rintro rfl
          rw [hname] at hother
          cases hother
        rw [h other hother, List.mem_append, List.mem_singleton, or_iff_left hne]
      rw [ih hkept]
      simp [nameProblemsAfter, hname]

/-- **Place by place**: the problems of a definition, in order. -/
theorem problems_eq (definition : RulesetDefinition) :
    definition.problems =
      along eraProblemsAfter [] definition.eras ++
      along (nameProblemsAfter .tech) [] definition.techs ++
      along (nameProblemsAfter .policy) [] definition.policies := by
  unfold problems
  rw [← erasProblems_eq, ← namesProblems_eq .tech definition.techs fun _ _ => .rfl,
    ← namesProblems_eq .policy definition.policies fun _ _ => .rfl]
  rfl

/-! ## Counting problems -/

/-- In a list of names there is nothing but blank and repeated names of its kind. -/
theorem countP_names_other {named : Named} {p : Problem → Bool}
    (hblank : ∀ place, p (.blankName named place) = false)
    (hrepeated : ∀ name, p (.repeatedName named name) = false) (names : List String) :
    (along (nameProblemsAfter named) [] names).countP p = 0 := by
  rw [List.countP_eq_zero]
  intro problem hproblem
  obtain ⟨before, name, later, -, hname⟩ := mem_along_iff.mp hproblem
  unfold nameProblemsAfter at hname
  split at hname
  · split at hname
    · rw [List.mem_singleton.mp hname, hrepeated]
      decide
    · cases hname
  · rw [List.mem_singleton.mp hname, hblank]
    decide

theorem countP_names_of_ne {named other : Named} (h : named ≠ other) (names : List String) :
    (along (nameProblemsAfter named) [] names).countP (Problem.isBlankName other) = 0 ∧
      (along (nameProblemsAfter named) [] names).countP (Problem.isRepeatedName other) = 0 := by
  have hkind : (named == other) = false := beq_eq_false_iff_ne.mpr h
  exact ⟨countP_names_other (fun _ => hkind) (fun _ => rfl) names,
    countP_names_other (fun _ => rfl) (fun _ => hkind) names⟩

theorem countP_blankName_names (named : Named) (names : List String) :
    (along (nameProblemsAfter named) [] names).countP (Problem.isBlankName named) =
      names.countP (!hasName ·) := by
  refine countP_along (fun before name => ?_) [] names
  unfold nameProblemsAfter
  cases hasName name with
  | true => by_cases hmem : name ∈ before <;> simp [hmem, Problem.isBlankName]
  | false => simp [Problem.isBlankName]

theorem countP_repeatedName_names (named : Named) (names : List String) :
    (along (nameProblemsAfter named) [] names).countP (Problem.isRepeatedName named) +
      (names.filter hasName).toFinset.card = (names.filter hasName).length := by
  have hcount := countP_along_add_card (f := nameProblemsAfter named)
    (p := Problem.isRepeatedName named) hasName id (fun before name => ?_) [] names
  · simpa using hcount
  · unfold nameProblemsAfter
    cases hname : hasName name with
    | true => by_cases hmem : name ∈ before <;> simp [hmem, hname, Problem.isRepeatedName]
    | false => simp [Problem.isRepeatedName]

theorem countP_blankName_eras (eras : List Era) :
    (along eraProblemsAfter [] eras).countP (Problem.isBlankName .era) =
      (eras.map (·.name)).countP (!hasName ·) := by
  rw [List.countP_map]
  refine countP_along (fun before era => ?_) [] eras
  unfold eraProblemsAfter
  cases hname : hasName era.name with
  | true =>
    by_cases hmem : era.name ∈ before.map (·.name) <;>
      cases closest? before era.number <;> simp [hmem, hname, Problem.isBlankName]
  | false => simp [hname, Problem.isBlankName]

theorem countP_repeatedName_eras (eras : List Era) :
    (along eraProblemsAfter [] eras).countP (Problem.isRepeatedName .era) +
        ((eras.map (·.name)).filter hasName).toFinset.card =
      ((eras.map (·.name)).filter hasName).length := by
  have hcount := countP_along_add_card (f := eraProblemsAfter)
    (p := Problem.isRepeatedName .era) (hasName ·.name) (·.name) (fun before era => ?_) [] eras
  · simpa [List.filter_map, Function.comp_def] using hcount
  · unfold eraProblemsAfter
    cases hname : hasName era.name with
    | true =>
      simp only [mem_names_iff hname]
      by_cases hmem : era.name ∈ before.map (·.name) <;>
        cases closest? before era.number <;> simp [hmem, Problem.isRepeatedName]
    | false => simp [Problem.isRepeatedName]

theorem countP_sharedEraNumber_eras (eras : List Era) :
    (along eraProblemsAfter [] eras).countP Problem.isSharedEraNumber +
        ((eras.filter (hasName ·.name)).map (·.number)).toFinset.card =
      (eras.filter (hasName ·.name)).length := by
  have hcount := countP_along_add_card (f := eraProblemsAfter)
    (p := Problem.isSharedEraNumber) (hasName ·.name) (·.number) (fun before era => ?_) [] eras
  · simpa using hcount
  · unfold eraProblemsAfter
    simp only [← isSome_closest?_iff]
    cases hname : hasName era.name with
    | true =>
      by_cases hmem : era.name ∈ before.map (·.name) <;>
        cases closest? before era.number <;> simp [hmem, Problem.isSharedEraNumber]
    | false => simp [Problem.isSharedEraNumber]

/-- Checks of eras find no name of another kind. -/
theorem countP_eras_of_ne {other : Named} (h : .era ≠ other) (eras : List Era) :
    (along eraProblemsAfter [] eras).countP (Problem.isBlankName other) = 0 ∧
      (along eraProblemsAfter [] eras).countP (Problem.isRepeatedName other) = 0 := by
  have hkind : (Named.era == other) = false := beq_eq_false_iff_ne.mpr h
  have hnone : ∀ problem ∈ along eraProblemsAfter [] eras,
      problem.isBlankName other = false ∧ problem.isRepeatedName other = false := by
    intro problem hproblem
    obtain ⟨before, era, later, -, hera⟩ := mem_along_iff.mp hproblem
    unfold eraProblemsAfter at hera
    split at hera
    · rcases List.mem_append.mp hera with hname | hnumber
      · split at hname
        · rw [List.mem_singleton.mp hname]
          exact ⟨rfl, hkind⟩
        · cases hname
      · obtain ⟨closest, -, rfl⟩ := Option.map_eq_some_iff.mp (Option.mem_toList.mp hnumber)
        exact ⟨rfl, rfl⟩
    · rw [List.mem_singleton.mp hera]
      exact ⟨hkind, rfl⟩
  rw [List.countP_eq_zero, List.countP_eq_zero]
  exact ⟨fun problem hproblem => by rw [(hnone problem hproblem).1]; decide,
    fun problem hproblem => by rw [(hnone problem hproblem).2]; decide⟩

/-! ## Shared numbers -/

/-- At one place a shared number is that of the era, which has a name. -/
theorem sharedEraNumber_mem_after_iff {before : List Era} {era : Era} {number : Int}
    {first second : String} :
    .sharedEraNumber number first second ∈ eraProblemsAfter before era ↔
      hasName era.name = true ∧ era = { name := second, number } ∧
        closest? before number = some { name := first, number } := by
  unfold eraProblemsAfter
  split
  · next hname =>
    have hrepeated : .sharedEraNumber number first second ∉
        (if era.name ∈ before.map (·.name) then [Problem.repeatedName .era era.name] else []) := by
      split <;> simp
    rw [List.mem_append, or_iff_right hrepeated, Option.mem_toList, Option.map_eq_some_iff]
    constructor
    · rintro ⟨closest, hclosest, heq⟩
      obtain ⟨rfl, rfl, rfl⟩ := Problem.sharedEraNumber.inj heq
      -- the closest era has the number of the later one
      obtain ⟨hnumber, -⟩ := closest?_eq_some_iff.mp hclosest
      refine ⟨hname, rfl, ?_⟩
      rw [hclosest, ← hnumber]
    · rintro ⟨-, rfl, hclosest⟩
      exact ⟨_, hclosest, rfl⟩
  · next hname => simp [hname]

/-- A shared number is reported of an era and the closest one in front of it. -/
theorem sharedEraNumber_mem_iff {eras : List Era} {number : Int} {first second : String} :
    .sharedEraNumber number first second ∈ along eraProblemsAfter [] eras ↔
      ∃ older between later,
        eras.filter (hasName ·.name) =
          older ++ { name := first, number } :: between ++ { name := second, number } :: later ∧
        ∀ era ∈ between, era.number ≠ number := by
  rw [mem_along_iff]
  constructor
  · rintro ⟨before, era, later, rfl, hera⟩
    obtain ⟨hname, rfl, hclosest⟩ := sharedEraNumber_mem_after_iff.mp hera
    obtain ⟨-, older, between, hsplit, hbetween⟩ := closest?_eq_some_iff.mp hclosest
    refine ⟨older, between, later.filter (hasName ·.name), ?_, hbetween⟩
    rw [List.nil_append] at hsplit
    rw [List.filter_append, hsplit, List.filter_cons, if_pos hname]
  · rintro ⟨older, between, later, hsplit, hbetween⟩
    obtain ⟨front, back, rfl, hfront, hback⟩ := List.filter_eq_append_iff.mp hsplit
    obtain ⟨skipped, rest, rfl, hskipped, hname, -⟩ := List.filter_eq_cons_iff.mp hback
    refine ⟨front ++ skipped, _, rest, by simp,
      sharedEraNumber_mem_after_iff.mpr ⟨hname, rfl, ?_⟩⟩
    rw [List.nil_append, closest?_eq_some_iff]
    refine ⟨rfl, older, between, ?_, hbetween⟩
    rw [List.filter_append, hfront, List.filter_eq_nil_iff.mpr hskipped, List.append_nil]

/-! ## Every problem once -/

/-- The names of the entries of each kind. -/
def entryNames (definition : RulesetDefinition) : Named → List String
  | .era => definition.eras.map (·.name)
  | .tech => definition.techs
  | .policy => definition.policies
  | .object => []

/-- The eras that have a name. -/
def namedEras (definition : RulesetDefinition) : List Era :=
  definition.eras.filter (hasName ·.name)

/-- **Counted once**: which problems a definition has, in which order, and how many. -/
structure CountsOnce (definition : RulesetDefinition) : Prop where
  /-- The problems of eras come first, then those of techs, then those of policies, each in
      the order of the entries; of an era its name comes before its number. -/
  problems_eq : definition.problems =
    along eraProblemsAfter [] definition.eras ++
    along (nameProblemsAfter .tech) [] definition.techs ++
    along (nameProblemsAfter .policy) [] definition.policies
  /-- Every entry without a name is one problem. -/
  blankNames : ∀ named, definition.problems.countP (Problem.isBlankName named) =
    (definition.entryNames named).countP (!hasName ·)
  /-- The repeated names and the different ones are together as many as the names. -/
  repeatedNames : ∀ named, definition.problems.countP (Problem.isRepeatedName named) +
      ((definition.entryNames named).filter hasName).toFinset.card =
    ((definition.entryNames named).filter hasName).length
  /-- The shared numbers and the different ones are together as many as the eras with a name. -/
  sharedNumbers : definition.problems.countP Problem.isSharedEraNumber +
      (definition.namedEras.map (·.number)).toFinset.card = definition.namedEras.length
  /-- A shared number is reported of an era with a name and the closest such era in front of
      it that has the number. -/
  sharedNumber_iff : ∀ number first second,
    .sharedEraNumber number first second ∈ definition.problems ↔ ∃ older between later,
      definition.namedEras =
        older ++ { name := first, number } :: between ++ { name := second, number } :: later ∧
      ∀ era ∈ between, era.number ≠ number

variable (definition : RulesetDefinition)

theorem countP_problems (p : Problem → Bool) :
    definition.problems.countP p =
      (along eraProblemsAfter [] definition.eras).countP p +
      (along (nameProblemsAfter .tech) [] definition.techs).countP p +
      (along (nameProblemsAfter .policy) [] definition.policies).countP p := by
  rw [problems_eq, List.countP_append, List.countP_append]

/-- Blank names of a kind are found in the list of that kind only, and none of objects. -/
theorem countP_blankName_problems (named : Named) :
    definition.problems.countP (Problem.isBlankName named) =
      (definition.entryNames named).countP (!hasName ·) := by
  rw [countP_problems]
  cases named with
  | era =>
    rw [countP_blankName_eras, (countP_names_of_ne (by decide) _).1,
      (countP_names_of_ne (by decide) _).1]
    rfl
  | tech =>
    rw [(countP_eras_of_ne (by decide) _).1, countP_blankName_names,
      (countP_names_of_ne (by decide) _).1, Nat.zero_add]
    rfl
  | policy =>
    rw [(countP_eras_of_ne (by decide) _).1, (countP_names_of_ne (by decide) _).1,
      countP_blankName_names, Nat.zero_add]
    rfl
  | object =>
    rw [(countP_eras_of_ne (by decide) _).1, (countP_names_of_ne (by decide) _).1,
      (countP_names_of_ne (by decide) _).1]
    rfl

/-- Repeated names of a kind are found in the list of that kind only, and none of objects. -/
theorem countP_repeatedName_problems (named : Named) :
    definition.problems.countP (Problem.isRepeatedName named) +
        ((definition.entryNames named).filter hasName).toFinset.card =
      ((definition.entryNames named).filter hasName).length := by
  rw [countP_problems]
  cases named with
  | era =>
    rw [(countP_names_of_ne (by decide) _).2, (countP_names_of_ne (by decide) _).2]
    exact countP_repeatedName_eras definition.eras
  | tech =>
    rw [(countP_eras_of_ne (by decide) _).2,
      (countP_names_of_ne (by decide) definition.policies).2, Nat.zero_add]
    exact countP_repeatedName_names .tech definition.techs
  | policy =>
    rw [(countP_eras_of_ne (by decide) _).2, (countP_names_of_ne (by decide) _).2, Nat.zero_add]
    exact countP_repeatedName_names .policy definition.policies
  | object =>
    rw [(countP_eras_of_ne (by decide) _).2, (countP_names_of_ne (by decide) _).2,
      (countP_names_of_ne (by decide) _).2]
    rfl

/-- Shared numbers are found among the eras only. -/
theorem sharedEraNumber_mem_problems_iff {number : Int} {first second : String} :
    .sharedEraNumber number first second ∈ definition.problems ↔
      .sharedEraNumber number first second ∈ along eraProblemsAfter [] definition.eras := by
  have hnames : ∀ (named : Named) (names : List String),
      .sharedEraNumber number first second ∉ along (nameProblemsAfter named) [] names := by
    intro named names hin
    have hnone : (along (nameProblemsAfter named) [] names).countP Problem.isSharedEraNumber = 0 :=
      countP_names_other (fun _ => rfl) (fun _ => rfl) names
    exact List.countP_eq_zero.mp hnone _ hin rfl
  rw [problems_eq, List.mem_append, List.mem_append, or_iff_left (hnames _ _),
    or_iff_left (hnames _ _)]

/-- **Every problem is counted once.** An entry without a name is one problem, and is not
    compared with any other. Of the entries with a name, each that repeats an earlier name is
    one problem, and each era that repeats an earlier number is one, with the closest era
    that has it. They come in the order of the entries, eras first, then techs, then
    policies. -/
theorem problems_counted_once : definition.CountsOnce := by
  constructor
  case problems_eq => exact problems_eq definition
  case blankNames => exact countP_blankName_problems definition
  case repeatedNames => exact countP_repeatedName_problems definition
  case sharedNumbers =>
    have hnames : ∀ (named : Named) (names : List String),
        (along (nameProblemsAfter named) [] names).countP Problem.isSharedEraNumber = 0 :=
      fun named names => countP_names_other (fun _ => rfl) (fun _ => rfl) names
    rw [countP_problems, hnames, hnames]
    exact countP_sharedEraNumber_eras definition.eras
  case sharedNumber_iff =>
    intro number first second
    rw [sharedEraNumber_mem_problems_iff]
    exact sharedEraNumber_mem_iff

/-- Each of three eras of one number is reported with the one before it, and the blank one
    between them with nobody. -/
example : problems
    { name := "Test"
      eras := [⟨"Ancient era", 1⟩, ⟨"Classical era", 1⟩, ⟨" ", 1⟩, ⟨"Ancient era", 1⟩]
      techs := ["Writing", "", "Writing"] } =
    [.sharedEraNumber 1 "Ancient era" "Classical era", .blankName .era "era number 1",
      .repeatedName .era "Ancient era", .sharedEraNumber 1 "Classical era" "Ancient era",
      .blankName .tech "tech list", .repeatedName .tech "Writing"] := by
  decide +kernel

end RulesetDefinition

end EffectText
