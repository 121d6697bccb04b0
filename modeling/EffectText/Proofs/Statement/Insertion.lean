import EffectText.Proofs.Statement.Wording

/-! # A condition written into a text

    A condition is **inserted** between two texts with a space on either side. The bracket
    that opens it starts afresh, whatever stands in front of it, and what comes behind it
    is cut as if it stood alone. So an unclosed bracket in the first text, a lone closing
    one in the second, and brackets around the whole change nothing.

    * The main clause of the whole has the words of the one text and then those of the
      other (`Clause.main_inserted`).
    * The condition stands between the conditions of the two texts
      (`Clause.conditions_inserted`).
    * `Statement.inserted_condition_stays_apart`: what a statement says apart from its
      conditions does not depend on the inserted one.
-/

namespace EffectText

open Text

namespace Clause

/-! ## Clauses -/

/-- **Insertion**: a condition between two texts, with a space on either side. -/
def inserted (before inner after : String) : String :=
  before ++ " <" ++ inner ++ "> " ++ after

theorem toList_inserted (before inner after : String) :
    (inserted before inner after).toList =
      (before.toList ++ [' ']) ++ '<' :: (inner.toList ++ '>' :: (' ' :: after.toList)) := by
  simp [inserted]

/-- The words of a main clause are the words outside the conditions. -/
theorem words_main (text : String) :
    words (main text).toList = words (literals (segments .angle text.toList)) := by
  unfold main mainChars
  rw [String.toList_ofList, words_tidy]

section inserted

variable {inner : String} (hfree : Unbracketed .angle inner.toList)
include hfree

/-- The cut of the whole: those of the two texts, with the condition in between. -/
theorem segments_inserted (before after : String) :
    segments .angle (inserted before inner after).toList =
      segments .angle before.toList ++
        .literal ' ' :: .group inner.toList :: .literal ' ' :: segments .angle after.toList := by
  have hfront : segments .angle (before.toList ++ [' ']) =
      segments .angle before.toList ++ [.literal ' '] :=
    segments_append_unbracketed before.toList (by decide)
  have hback : segments .angle (' ' :: after.toList) =
      .literal ' ' :: segments .angle after.toList :=
    segments_cons_of_ne (by decide) after.toList
  -- the brackets of the condition find each other, and the spaces end both texts
  rw [toList_inserted]
  calc segments .angle
        ((before.toList ++ [' ']) ++ '<' :: (inner.toList ++ '>' :: (' ' :: after.toList)))
    _ = segments .angle (before.toList ++ [' ']) ++
          .group inner.toList :: segments .angle (' ' :: after.toList) :=
        segments_append_group hfree (before.toList ++ [' ']) (' ' :: after.toList)
    _ = segments .angle before.toList ++
          .literal ' ' :: .group inner.toList :: .literal ' ' :: segments .angle after.toList := by
        rw [hfront, hback, List.append_assoc, List.singleton_append]

/-- The main clause of the whole: the words of both main clauses, joined by single
    spaces. -/
theorem main_inserted (before after : String) :
    main (inserted before inner after) =
      String.ofList (unwords (words (main before).toList ++ words (main after).toList)) := by
  have hspace : isBlank ' ' = true := by decide
  have hwords : words (literals (segments .angle (inserted before inner after).toList)) =
      words (main before).toList ++ words (main after).toList := by
    rw [segments_inserted hfree, literals_append, words_main, words_main]
    calc words (literals (segments .angle before.toList) ++
          ' ' :: ' ' :: literals (segments .angle after.toList))
      _ = words (literals (segments .angle before.toList)) ++
            words ([] ++ ' ' :: literals (segments .angle after.toList)) :=
          words_append_blank hspace _ _
      _ = words (literals (segments .angle before.toList)) ++
            words (literals (segments .angle after.toList)) := by
          rw [words_append_blank hspace []]
          rfl
  show String.ofList (unwords (words _)) = _
  rw [hwords]

/-- The conditions of the whole: those of the first text, the inserted one, those of the
    second text. -/
theorem conditions_inserted (before after : String) :
    conditions (inserted before inner after) =
      conditions before ++ String.ofList (trim inner.toList) :: conditions after := by
  unfold conditions conditionChars
  rw [segments_inserted hfree, groups_append]
  simp [groups]

end inserted

end Clause

namespace Statement

/-! ## Statements -/

/-- Whatever is inserted, the main clause stays the same. -/
theorem sameClause_inserted {inner other : String} (hinner : Unbracketed .angle inner.toList)
    (hother : Unbracketed .angle other.toList) (half : Half) (source : Option Source)
    (before after : String) :
    SameClause (parse half source (Clause.inserted before inner after))
      (parse half source (Clause.inserted before other after)) := by
  have hmain : Clause.main (Clause.inserted before inner after) =
      Clause.main (Clause.inserted before other after) := by
    rw [Clause.main_inserted hinner, Clause.main_inserted hother]
  rw [parse_eq, parse_eq, hmain]
  exact ⟨rfl, rfl, rfl⟩

/-- **Insertion.** Insert a condition between two texts that may hold any brackets. The
    main clause of the whole has the words of the two main clauses, joined by single spaces.
    Its conditions are those of the first text, the inserted one without the blanks around
    it, and those of the second text, and so are the conditions of the parsed statement.
    Another condition in the same place gives the same pattern, parameters and kind, the
    same limits to a city and the same yields. -/
theorem inserted_condition_stays_apart (half : Half) (source : Option Source)
    (before inner after : String) (hinner : Unbracketed .angle inner.toList) :
    Clause.main (Clause.inserted before inner after) =
      String.ofList
        (unwords (words (Clause.main before).toList ++ words (Clause.main after).toList)) ∧
    Clause.conditions (Clause.inserted before inner after) =
      Clause.conditions before ++ String.ofList (trim inner.toList) :: Clause.conditions after ∧
    (parse half source (Clause.inserted before inner after)).conditions =
      (parse half source before).conditions ++
        condition (String.ofList (trim inner.toList)) :: (parse half source after).conditions ∧
    ∀ other : String, Unbracketed .angle other.toList →
      SameClause (parse half source (Clause.inserted before inner after))
        (parse half source (Clause.inserted before other after)) ∧
      (parse half source (Clause.inserted before inner after)).isLocal =
        (parse half source (Clause.inserted before other after)).isLocal ∧
      (parse half source (Clause.inserted before inner after)).isAntiLocal =
        (parse half source (Clause.inserted before other after)).isAntiLocal ∧
      (parse half source (Clause.inserted before inner after)).yields =
        (parse half source (Clause.inserted before other after)).yields := by
  refine ⟨Clause.main_inserted hinner before after,
    Clause.conditions_inserted hinner before after, ?conditions, ?same⟩
  case conditions =>
    rw [conditions_parse, conditions_parse, conditions_parse,
      Clause.conditions_inserted hinner, List.map_append, List.map_cons]
  case same =>
    intro other hother
    have hsame := sameClause_inserted hinner hother half source before after
    exact ⟨hsame, hsame.isLocal_eq, hsame.isAntiLocal_eq, hsame.yields_eq⟩

/-- An unclosed bracket in front of the condition, a lone one behind it, and nothing in its
    place. -/
theorem inserted_condition_stays_apart_unclosed :
    Unbracketed .angle " when at war ".toList ∧ Unbracketed .angle "".toList ∧
    Clause.main (Clause.inserted "[+1 Gold] <during <" " when at war " "> <vs cities>") =
      "[+1 Gold] <during < >" ∧
    (effect (Clause.inserted "[+1 Gold] <during <" " when at war " "> <vs cities>")).conditions =
      [condition "when at war", condition "vs cities"] ∧
    (effect (Clause.inserted "[+1 Gold] <during <" " when at war " "> <vs cities>")).yields =
      (effect (Clause.inserted "[+1 Gold] <during <" "" "> <vs cities>")).yields := by
  have hinner : Unbracketed .angle " when at war ".toList := by decide
  have hother : Unbracketed .angle "".toList := by decide
  obtain ⟨hmain, -, hconditions, hsame⟩ := inserted_condition_stays_apart .effect none
    "[+1 Gold] <during <" " when at war " "> <vs cities>" hinner
  obtain ⟨-, -, -, hyields⟩ := hsame "" hother
  refine ⟨hinner, hother, ?main, ?conditions, hyields⟩
  case main =>
    rw [hmain]
    decide
  case conditions =>
    have hbefore : (parse .effect none "[+1 Gold] <during <").conditions = [] := by
      rw [conditions_parse]
      have hnone : Clause.conditions "[+1 Gold] <during <" = [] := by decide
      rw [hnone, List.map_nil]
    have hafter : (parse .effect none "> <vs cities>").conditions =
        [condition "vs cities"] := by
      rw [conditions_parse]
      have hone : Clause.conditions "> <vs cities>" = ["vs cities"] := by decide
      rw [hone, List.map_singleton]
    have htrim : String.ofList (trim " when at war ".toList) = "when at war" := by decide
    rw [hbefore, hafter, htrim] at hconditions
    exact hconditions

end Statement

end EffectText
