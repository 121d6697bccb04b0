import EffectText.Definition.ContentProblems
import EffectText.Proofs.Ruleset.Problems
import Mathlib.Data.Fintype.Fin

/-! # Problems of content, and those that stay hidden

    The checks of content go through its objects and keep the kinds and names that they have
    passed. As with rulesets, what they find at an object depends on the objects in front of it
    only, so the problems are what is found **along** the objects
    (`ContentDefinition.problems_eq`).

    An object without a name is one problem, and the checks go on to the next object. So a
    blank statement of such an object is **hidden**: it is reported only after the object has
    been given a name.

    * **Step**: the problems of one object, behind others
      (`ContentDefinition.objectProblemsAfter`).
    * **Run**: how often each sort of problem is found along a list
      (`countP_along_eq_flatMap`, `countP_along_eq_card`).
    * `ContentDefinition.reports_once_unless_hidden`: every problem is reported once, but for
      the hidden ones, so all problems are reported together exactly if none is hidden.
-/

namespace EffectText

open Text

/-! ## Counting along a list -/

section Along

variable {α γ : Type} {f : List α → α → List γ} {p : γ → Bool}

/-- What each entry gives by itself is counted in lists that belong to the entries. -/
theorem countP_along_eq_flatMap {δ : Type} {g : α → List δ} {q : δ → Bool}
    (hf : ∀ before a, (f before a).countP p = (g a).countP q) (before l : List α) :
    (along f before l).countP p = (l.flatMap g).countP q := by
  induction l generalizing before with
  | nil => rfl
  | cons a rest ih =>
    rw [along, List.countP_append, hf, ih, List.flatMap_cons, List.countP_append]

/-- What an entry gives at some places, depending on what is in front of it, is counted by
    these places. -/
theorem countP_along_eq_card {q : List α → α → Prop} [∀ before, DecidablePred (q before)]
    (hf : ∀ before a, (f before a).countP p = if q before a then 1 else 0) (before l : List α) :
    (along f before l).countP p =
      (Finset.univ.filter fun i : Fin l.length => q (before ++ l.take i) l[i]).card := by
  induction l generalizing before with
  | nil => rfl
  | cons a rest ih =>
    -- the first place, and then the others, which have one more entry in front of them
    have hrest := ih (before ++ [a])
    simp only [List.append_assoc, List.singleton_append] at hrest
    have hfirst : (if q (before ++ (a :: rest).take 0) a then 1 else 0) =
        if q before a then 1 else 0 := by
      rw [List.take_zero, List.append_nil]
    have hsplit := Fin.card_filter_univ_succ' fun i : Fin (rest.length + 1) =>
      q (before ++ (a :: rest).take i) (a :: rest)[i]
    rw [along, List.countP_append, hf, hrest, ← hfirst]
    exact hsplit.symm

end Along

/-! ## Problems of one object -/

/-- A blank statement. -/
def Problem.isBlankStatement : Problem → Bool
  | .blankStatement _ => true
  | _ => false

namespace ObjectDefinition

/-- What must differ between objects: the kind as it is written, and the name. -/
def key (object : ObjectDefinition) : String × String := (object.kind, object.name)

/-- The blank statements of an object, each with its place. -/
def blankStatements (object : ObjectDefinition) (start : Nat) (statements : List String) :
    List Problem :=
  ((statements.zipIdx start).filter (trim ·.1.toList = [])).map
    fun (_, place) => .blankStatement s!"{object.kind} '{object.name}' unique #{place}"

/-- **Run** over statements: exactly the blank ones are found, in order. -/
theorem statementProblems_eq (object : ObjectDefinition) (start : Nat)
    (statements : List String) :
    object.statementProblems start statements = object.blankStatements start statements := by
  induction statements generalizing start with
  | nil => rfl
  | cons statement rest ih =>
    unfold statementProblems blankStatements
    rw [List.zipIdx_cons, List.filter_cons, ih]
    by_cases hblank : trim statement.toList = []
    · rw [if_pos ((isBlankText_iff statement).mpr hblank), if_pos (decide_eq_true hblank)]
      rfl
    · have hnot : isBlankText statement ≠ true := fun h => hblank ((isBlankText_iff _).mp h)
      rw [if_neg hnot, if_neg (by simpa using hblank)]
      rfl

theorem countP_blankStatements (object : ObjectDefinition) (start : Nat)
    (statements : List String) :
    (object.blankStatements start statements).countP Problem.isBlankStatement =
      statements.countP (trim ·.toList = []) := by
  have hplaces : ∀ found : List (String × Nat),
      (found.map fun (_, place) => Problem.blankStatement
        s!"{object.kind} '{object.name}' unique #{place}").countP Problem.isBlankStatement =
      found.length := by
    intro found
    rw [List.countP_map]
    exact congrFun List.countP_true found
  have hstatements : statements.countP (trim ·.toList = []) =
      ((statements.zipIdx start).map Prod.fst).countP (trim ·.toList = []) := by
    rw [List.zipIdx_map_fst]
  rw [hstatements, List.countP_map, blankStatements, hplaces, ← List.countP_eq_length_filter]
  rfl

end ObjectDefinition

namespace ContentDefinition

/-- **Step**: the problems of an object behind the objects `before`. -/
def objectProblemsAfter (before : List ObjectDefinition) (object : ObjectDefinition) :
    List Problem :=
  if hasName object.name then
    (if object.key ∈ before.map (·.key) then
      [.repeatedName .object s!"{object.kind}:{object.name}"] else []) ++
      object.blankStatements 0 object.statements
  else [.blankName .object s!"kind '{object.kind}'"]

/-- **Run** over objects: of the objects in front, only the keys of those with a name matter. -/
theorem objectsProblems_eq {earlier : List (String × String)} {before : List ObjectDefinition}
    (objects : List ObjectDefinition)
    (h : ∀ key : String × String, hasName key.2 = true →
      (key ∈ earlier ↔ key ∈ before.map (·.key))) :
    objectsProblems earlier objects = along objectProblemsAfter before objects := by
  induction objects generalizing earlier before with
  | nil => rfl
  | cons object rest ih =>
    rw [along, objectsProblems, isBlankText_eq]
    cases hname : hasName object.name with
    | true =>
      have hkept : ∀ key : String × String, hasName key.2 = true →
          (key ∈ object.key :: earlier ↔ key ∈ (before ++ [object]).map (·.key)) := by
        intro key hkey
        rw [List.mem_cons, h key hkey, List.map_append, List.mem_append, or_comm]
        simp
      have hrepeated : earlier.contains object.key = decide (object.key ∈ before.map (·.key)) := by
        rw [Bool.eq_iff_iff, List.contains_iff_mem, decide_eq_true_iff]
        exact h object.key hname
      rw [← ih hkept, ObjectDefinition.statementProblems_eq, objectProblemsAfter, if_pos hname]
      unfold ObjectDefinition.key at hrepeated ⊢
      simp only [hrepeated, decide_eq_true_eq]
      rfl
    | false =>
      -- a key with a name is not the key of this object
      have hkept : ∀ key : String × String, hasName key.2 = true →
          (key ∈ earlier ↔ key ∈ (before ++ [object]).map (·.key)) := by
        intro key hkey
        have hne : key ≠ object.key := by
          intro heq
          rw [heq] at hkey
          exact absurd (hname.symm.trans hkey) (by decide)
        rw [h key hkey, List.map_append, List.mem_append, or_iff_left (by simpa using hne)]
      rw [← ih hkept]
      simp [objectProblemsAfter, hname]

/-- **Object by object**: the problems of a definition, in order. -/
theorem problems_eq (definition : ContentDefinition) :
    definition.problems = along objectProblemsAfter [] definition.objects :=
  objectsProblems_eq definition.objects fun _ _ => .rfl

/-! ## Counting problems -/

/-- Blank statements of an object are nothing but blank statements. -/
theorem countP_blankStatements_other {p : Problem → Bool}
    (h : ∀ place, p (.blankStatement place) = false) (object : ObjectDefinition) (start : Nat)
    (statements : List String) : (object.blankStatements start statements).countP p = 0 := by
  rw [List.countP_eq_zero]
  intro problem hproblem
  obtain ⟨entry, -, rfl⟩ := List.mem_map.mp hproblem
  rw [h]
  decide

theorem countP_blankName_after (before : List ObjectDefinition) (object : ObjectDefinition) :
    (objectProblemsAfter before object).countP (Problem.isBlankName .object) =
      if !hasName object.name then 1 else 0 := by
  unfold objectProblemsAfter
  cases hasName object.name with
  | true =>
    have hnone := countP_blankStatements_other (p := Problem.isBlankName .object)
      (fun _ => rfl) object 0 object.statements
    by_cases hmem : object.key ∈ before.map (·.key) <;>
      simp [hmem, hnone, Problem.isBlankName]
  | false => simp [Problem.isBlankName]

theorem countP_blankStatement_after (before : List ObjectDefinition) (object : ObjectDefinition) :
    (objectProblemsAfter before object).countP Problem.isBlankStatement =
      (if hasName object.name then object.statements else []).countP (trim ·.toList = []) := by
  unfold objectProblemsAfter
  cases hasName object.name with
  | true =>
    have hall := object.countP_blankStatements 0 object.statements
    by_cases hmem : object.key ∈ before.map (·.key) <;>
      simp [hmem, hall, Problem.isBlankStatement]
  | false => simp [Problem.isBlankStatement]

theorem countP_repeatedName_after (before : List ObjectDefinition) (object : ObjectDefinition) :
    (objectProblemsAfter before object).countP (Problem.isRepeatedName .object) =
      if hasName object.name = true ∧ object.key ∈ before.map (·.key) then 1 else 0 := by
  unfold objectProblemsAfter
  cases hasName object.name with
  | true =>
    have hnone := countP_blankStatements_other (p := Problem.isRepeatedName .object)
      (fun _ => rfl) object 0 object.statements
    by_cases hmem : object.key ∈ before.map (·.key) <;>
      simp [hmem, hnone, Problem.isRepeatedName]
  | false => simp [Problem.isRepeatedName]

/-! ## All problems together -/

variable (definition : ContentDefinition)

/-- All statements that a definition declares. -/
def statements : List String := definition.objects.flatMap (·.statements)

/-- The statements of the objects that have a name. -/
def namedStatements : List String :=
  (definition.objects.filter (hasName ·.name)).flatMap (·.statements)

/-- The statements of the objects that have none. -/
def hiddenStatements : List String :=
  (definition.objects.filter (!hasName ·.name)).flatMap (·.statements)

/-- A place among the objects. -/
abbrev Place : Type := Fin definition.objects.length

/-- The object at a place. -/
def object (place : definition.Place) : ObjectDefinition := definition.objects[place]

variable {definition} in
theorem object_mem (place : definition.Place) : definition.object place ∈ definition.objects :=
  List.getElem_mem place.isLt

/-- The places of the objects that repeat the kind and the name of an earlier object with a
    name. -/
def repeats : Finset definition.Place :=
  Finset.univ.filter fun later => ∃ earlier < later,
    hasName (definition.object earlier).name = true ∧
      (definition.object earlier).key = (definition.object later).key

/-- **Hidden**: a blank statement of an object without a name. -/
def Hides : Prop :=
  ∃ object ∈ definition.objects, hasName object.name = false ∧
    ∃ statement ∈ object.statements, trim statement.toList = []

/-- **Reported once** each: the objects without a name, the blank ones of these statements,
    and the objects that repeat an earlier one. -/
structure ReportsOnce (statements : List String) : Prop where
  /-- Every object without a name is one problem. -/
  blankNames : definition.problems.countP (Problem.isBlankName .object) =
    definition.objects.countP (!hasName ·.name)
  /-- Every one of the statements that is blank is one problem. -/
  blankStatements : definition.problems.countP Problem.isBlankStatement =
    statements.countP (trim ·.toList = [])
  /-- Every object that repeats an earlier one is one problem. -/
  repeatedNames : definition.problems.countP (Problem.isRepeatedName .object) =
    definition.repeats.card

variable {definition}

/-- An object repeats an earlier one exactly if its key occurs in front of it. -/
theorem repeats_iff {later : definition.Place} :
    (hasName (definition.object later).name = true ∧
      (definition.object later).key ∈ (definition.objects.take later).map (·.key)) ↔
    ∃ earlier < later, hasName (definition.object earlier).name = true ∧
      (definition.object earlier).key = (definition.object later).key := by
  -- objects with one key have one name
  have hsame : ∀ {earlier : definition.Place},
      (definition.object earlier).key = (definition.object later).key →
        (definition.object earlier).name = (definition.object later).name :=
    fun hkey => congrArg Prod.snd hkey
  constructor
  · intro h
    obtain ⟨hname, hmem⟩ := h
    obtain ⟨object, hobject, hkey⟩ := List.mem_map.mp hmem
    obtain ⟨place, hplace, rfl⟩ := List.mem_take_iff_getElem.mp hobject
    have hlength : place < definition.objects.length := by omega
    have hearlier : place < later := by omega
    have hplaceName : (definition.object ⟨place, hlength⟩).name =
        (definition.object later).name := hsame hkey
    rw [← hplaceName] at hname
    exact ⟨⟨place, hlength⟩, hearlier, hname, hkey⟩
  · intro h
    obtain ⟨earlier, hlt, hname, hkey⟩ := h
    have hmem : definition.object earlier ∈ definition.objects.take later :=
      List.mem_take_iff_getElem.mpr ⟨earlier, lt_min hlt earlier.isLt, rfl⟩
    rw [hsame hkey] at hname
    exact ⟨hname, List.mem_map.mpr ⟨_, hmem, hkey⟩⟩

theorem namedStatements_eq (definition : ContentDefinition) :
    definition.namedStatements = definition.objects.flatMap fun object =>
      if hasName object.name then object.statements else [] := by
  unfold namedStatements
  induction definition.objects with
  | nil => rfl
  | cons object rest ih =>
    rw [List.filter_cons, List.flatMap_cons, ← ih]
    cases hasName object.name <;> rfl

/-- What is reported: every problem once, but for the statements of objects without a name. -/
theorem reportsOnce_namedStatements (definition : ContentDefinition) :
    definition.ReportsOnce definition.namedStatements := by
  constructor
  case blankNames =>
    rw [problems_eq]
    exact countP_along countP_blankName_after [] definition.objects
  case blankStatements =>
    rw [problems_eq, namedStatements_eq]
    exact countP_along_eq_flatMap countP_blankStatement_after [] definition.objects
  case repeatedNames =>
    rw [problems_eq, countP_along_eq_card countP_repeatedName_after]
    unfold repeats
    congr 1
    exact Finset.filter_congr fun later _ => repeats_iff

/-- The blank statements of a definition are those of objects with a name and the hidden
    ones. -/
theorem countP_statements (definition : ContentDefinition) :
    definition.statements.countP (trim ·.toList = []) =
      definition.namedStatements.countP (trim ·.toList = []) +
      definition.hiddenStatements.countP (trim ·.toList = []) := by
  have hperm : definition.objects.Perm
      (definition.objects.filter (hasName ·.name) ++
        definition.objects.filter (!hasName ·.name)) :=
    (List.filter_append_perm _ _).symm
  have hstatements := (hperm.flatMap_right (·.statements)).countP_eq (trim ·.toList = [])
  rw [List.flatMap_append, List.countP_append] at hstatements
  exact hstatements

theorem hides_iff {definition : ContentDefinition} :
    definition.Hides ↔ definition.hiddenStatements.countP (trim ·.toList = []) ≠ 0 := by
  rw [← Nat.pos_iff_ne_zero, List.countP_pos_iff]
  constructor
  · intro h
    obtain ⟨object, hobject, hname, statement, hstatement, hblank⟩ := h
    have hunnamed : object ∈ definition.objects.filter (!hasName ·.name) :=
      List.mem_filter.mpr ⟨hobject, by rw [hname]; rfl⟩
    exact ⟨statement, List.mem_flatMap.mpr ⟨object, hunnamed, hstatement⟩, decide_eq_true hblank⟩
  · intro h
    obtain ⟨statement, hmem, hblank⟩ := h
    obtain ⟨object, hunnamed, hstatement⟩ := List.mem_flatMap.mp hmem
    obtain ⟨hobject, hname⟩ := List.mem_filter.mp hunnamed
    exact ⟨object, hobject, by simpa using hname, statement, hstatement, of_decide_eq_true hblank⟩

/-- **All problems together.** Along the objects of a definition, every object without a name,
    every blank statement of an object with a name, and every object that repeats the kind and
    the name of an earlier one is reported once, and nothing else is. So the blank statements of
    all objects are reported together exactly if none is hidden. -/
theorem reports_once_unless_hidden (definition : ContentDefinition) :
    definition.problems = along objectProblemsAfter [] definition.objects ∧
      definition.ReportsOnce definition.namedStatements ∧
      (definition.ReportsOnce definition.statements ↔ ¬ definition.Hides) := by
  have hnamed : definition.ReportsOnce definition.namedStatements :=
    definition.reportsOnce_namedStatements
  have hcount := definition.countP_statements
  refine ⟨problems_eq definition, hnamed, ?_⟩
  rw [hides_iff, not_not]
  constructor
  · intro hall
    have hreported := hall.blankStatements.symm.trans hnamed.blankStatements
    omega
  · intro hnone
    refine ⟨hnamed.blankNames, ?_, hnamed.repeatedNames⟩
    rw [hnamed.blankStatements]
    omega

/-- A blank statement, a blank name that hides another one, and a repeat. -/
example : problems { objects := [⟨"Policy", "Honor", ["[+1 Gold]", " "]⟩,
      ⟨"Policy", " ", [""]⟩, ⟨"Policy", "Honor", []⟩] } =
    [.blankStatement "Policy 'Honor' unique #1", .blankName .object "kind 'Policy'",
      .repeatedName .object "Policy:Honor"] := by
  decide +kernel

/-- The blank statement of an object without a name is not reported. -/
theorem blank_name_hides_statement :
    ¬ ReportsOnce { objects := [⟨"Policy", " ", [" "]⟩] }
      (statements { objects := [⟨"Policy", " ", [" "]⟩] }) := by
  intro h
  have hcount := h.blankStatements
  revert hcount
  decide +kernel

end ContentDefinition

end EffectText
