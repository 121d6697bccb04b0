import EffectText.Proofs.Statement.Verdict
import EffectText.Proofs.Text.Respacing
import EffectText.World.Plain
import Mathlib.Data.List.Forall2

/-! # The wording of a statement

    Two texts are **worded alike** if they have the same words. Which blanks stand between
    the words, how many there are, and whether any stand at the ends is spelling.

    Spelling is lost on two levels. The main clause is tidied, so its words decide all of it
    (`Clause.main_eq_of_sameWording`). A condition is only trimmed, but it is tidied in turn
    when it is parsed, and its words depend on the words of the text
    (`Clause.conditions_sameWording`).

    * `Statement.reads_the_wording`: parsing gives texts that are worded alike the same
      pattern, parameters, kind, yields and verdicts.
-/

namespace EffectText

open Text

variable {W : World}

/-- **Worded alike**: the same words in the same order. -/
def SameWording (text other : String) : Prop := words text.toList = words other.toList

instance (text other : String) : Decidable (SameWording text other) :=
  inferInstanceAs (Decidable (words text.toList = words other.toList))

namespace Clause

/-! ## Clauses -/

/-- Texts that are worded alike have the same main clause. -/
theorem main_eq_of_sameWording {text other : String} (h : SameWording text other) :
    main text = main other := by
  have hwords := words_literals_segments_eq (d := .angle) (by decide) (by decide) h
  unfold main mainChars tidy
  rw [hwords]

/-- The words of the conditions of a text are those of its groups: only blanks are
    trimmed. -/
theorem map_words_conditions (text : String) :
    (conditions text).map (fun clause => words clause.toList) =
      (groups (segments .angle text.toList)).map words := by
  simp [conditions, conditionChars, words_trim, Function.comp_def]

/-- Texts that are worded alike have conditions that are worded alike. -/
theorem conditions_sameWording {text other : String} (h : SameWording text other) :
    List.Forall₂ SameWording (conditions text) (conditions other) := by
  have hgroups := map_words_groups_segments_eq (d := .angle) (by decide) (by decide) h
  have hwords : List.Forall₂ (· = ·)
      ((conditions text).map fun clause => words clause.toList)
      ((conditions other).map fun clause => words clause.toList) := by
    rw [map_words_conditions, map_words_conditions, hgroups]
    exact List.forall₂_refl _
  rw [List.forall₂_map_left_iff, List.forall₂_map_right_iff] at hwords
  exact hwords

end Clause

namespace Statement

/-! ## Statements that read the same -/

/-- **Same clause**: the same pattern, parameters and kind. -/
structure SameClause (statement other : Statement) : Prop where
  pattern_eq : statement.pattern = other.pattern
  params_eq : statement.params = other.params
  kind_eq : statement.kind = other.kind

/-- **Same reading**: the same clause, and in order conditions that have the same clauses.
    What else is read off the two statements is the same too. -/
structure SameReading (statement other : Statement) : Prop extends SameClause statement other where
  conditions : List.Forall₂ SameClause statement.conditions other.conditions
  allParams_eq : statement.allParams = other.allParams
  isLocal_eq : statement.isLocal = other.isLocal
  isAntiLocal_eq : statement.isAntiLocal = other.isAntiLocal
  yields_eq : statement.yields = other.yields

theorem SameClause.flatMap_params {list others : List Statement}
    (h : List.Forall₂ SameClause list others) :
    list.flatMap (·.params) = others.flatMap (·.params) := by
  induction h with
  | nil => rfl
  | cons hclause _ ih => rw [List.flatMap_cons, List.flatMap_cons, hclause.params_eq, ih]

theorem SameClause.isLocal_eq {statement other : Statement} (h : SameClause statement other) :
    statement.isLocal = other.isLocal := by
  unfold isLocal
  rw [h.params_eq]

theorem SameClause.isAntiLocal_eq {statement other : Statement}
    (h : SameClause statement other) : statement.isAntiLocal = other.isAntiLocal := by
  unfold isAntiLocal
  rw [h.params_eq]

theorem SameClause.yields_eq {statement other : Statement} (h : SameClause statement other) :
    statement.yields = other.yields := by
  unfold yields
  rw [h.params_eq]

/-- The main clause and the clauses of the conditions decide what is read off. -/
theorem SameClause.sameReading {statement other : Statement} (h : SameClause statement other)
    (hconditions : List.Forall₂ SameClause statement.conditions other.conditions) :
    SameReading statement other := by
  constructor
  case toSameClause => exact h
  case conditions => exact hconditions
  case allParams_eq =>
    unfold allParams
    rw [h.params_eq, SameClause.flatMap_params hconditions]
  case isLocal_eq => exact h.isLocal_eq
  case isAntiLocal_eq => exact h.isAntiLocal_eq
  case yields_eq => exact h.yields_eq

/-- The standard registry decides by kind and parameters. -/
theorem SameClause.evaluate_standard_eq {statement other : Statement}
    (h : SameClause statement other) (s : Snapshot W) :
    Registry.standard.evaluate statement s = Registry.standard.evaluate other s := by
  rw [Registry.evaluate_standard, Registry.evaluate_standard, h.kind_eq, h.params_eq]

theorem SameClause.all_evaluate_standard_eq {list others : List Statement}
    (h : List.Forall₂ SameClause list others) (s : Snapshot W) :
    (list.all fun condition => Registry.standard.evaluate condition s) =
      others.all fun condition => Registry.standard.evaluate condition s := by
  induction h with
  | nil => rfl
  | cons hclause _ ih => rw [List.all_cons, List.all_cons, hclause.evaluate_standard_eq s, ih]

theorem SameReading.applies_eq {statement other : Statement} (h : SameReading statement other)
    (s : Option (Snapshot W)) : statement.applies s = other.applies s := by
  unfold applies appliesBy
  cases s with
  | none =>
    have hlength : statement.conditions.length = other.conditions.length :=
      h.conditions.length_eq
    rw [Bool.eq_iff_iff, List.isEmpty_iff_length_eq_zero, List.isEmpty_iff_length_eq_zero,
      hlength]
  | some s => exact SameClause.all_evaluate_standard_eq h.conditions s

/-! ## Parsing reads the wording -/

theorem sameClause_parse {text other : String} (h : SameWording text other) (half : Half)
    (source source' : Option Source) :
    SameClause (parse half source text) (parse half source' other) := by
  have hmain : Clause.main text = Clause.main other := Clause.main_eq_of_sameWording h
  rw [parse_eq, parse_eq, hmain]
  exact ⟨rfl, rfl, rfl⟩

theorem sameReading_parse {text other : String} (h : SameWording text other) (half : Half)
    (source source' : Option Source) :
    SameReading (parse half source text) (parse half source' other) := by
  have hconditions : List.Forall₂ SameClause (parse half source text).conditions
      (parse half source' other).conditions := by
    rw [parse_eq, parse_eq]
    show List.Forall₂ SameClause ((Clause.conditions text).map condition)
      ((Clause.conditions other).map condition)
    rw [List.forall₂_map_left_iff, List.forall₂_map_right_iff]
    exact (Clause.conditions_sameWording h).imp fun clause clause' hclause =>
      sameClause_parse hclause .condition none none
  exact (sameClause_parse h half source source').sameReading hconditions

/-- **Wording.** Parsing reads the words of a text and nothing else. In either half of the
    catalog, and whatever declares them, two texts that are worded alike have the same
    pattern, parameters and kind, the same yields and limits to a city, and as many
    conditions, which have the same patterns, parameters and kinds. So by the standard
    registry they apply in the same snapshots, and without a snapshot both or neither. -/
theorem reads_the_wording (half : Half) (source source' : Option Source) (text other : String)
    (h : SameWording text other) :
    SameReading (parse half source text) (parse half source' other) ∧
    ∀ s : Option (Snapshot W),
      (parse half source text).applies s = (parse half source' other).applies s := by
  have hreading : SameReading (parse half source text) (parse half source' other) :=
    sameReading_parse h half source source'
  exact ⟨hreading, hreading.applies_eq⟩

/-- A condition glued to a word, blanks of several sorts inside a parameter and a
    condition, and a line break at the end. -/
theorem reads_the_wording_glued :
    SameWording "[+1 Gold]\t[in this\u3000 city]<when \n at war>\n"
      "[+1 Gold] [in this city]<when at war>" ∧
    SameReading (effect "[+1 Gold]\t[in this\u3000 city]<when \n at war>\n")
      (effect "[+1 Gold] [in this city]<when at war>") ∧
    ∀ s : Option (Snapshot Plain.world),
      (effect "[+1 Gold]\t[in this\u3000 city]<when \n at war>\n").applies s =
        (effect "[+1 Gold] [in this city]<when at war>").applies s := by
  have hwording : SameWording "[+1 Gold]\t[in this\u3000 city]<when \n at war>\n"
      "[+1 Gold] [in this city]<when at war>" := by decide
  exact ⟨hwording, reads_the_wording .effect none none _ _ hwording⟩

end Statement

end EffectText
