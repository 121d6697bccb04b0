import EffectText.Catalog.Entry
import EffectText.Clause

/-! # Looking up a pattern

    A statement is recognized by the pattern of its main clause. Each half of the
    catalog has a table from the patterns of its kinds to the kinds. An effect
    pattern is looked up among effects only, and a condition pattern among
    conditions only.
-/

namespace EffectText

/-- The pattern of a kind: its authoring text with every named slot emptied. -/
def Kind.pattern (kind : Kind) : String := (Clause.extract kind.entry.text).1

namespace Catalog

/-- The patterns of the kinds of effect, in the order of the catalog. -/
def effectPatterns : List (String × Kind) :=
  EffectKind.all.map fun kind => ((Kind.effect kind).pattern, .effect kind)

/-- The patterns of the kinds of condition, in the order of the catalog. -/
def conditionPatterns : List (String × Kind) :=
  ConditionKind.all.map fun kind => ((Kind.condition kind).pattern, .condition kind)

/-- The patterns of one half of the catalog. -/
def patterns : Half → List (String × Kind)
  | .effect => effectPatterns
  | .condition => conditionPatterns

/-- **Lookup**: the first kind of the half that has exactly this pattern. -/
def find? (half : Half) (pattern : String) : Option Kind := (patterns half).lookup pattern

/-- A lookup finds a kind of the half it was made in. -/
theorem half_eq_of_find? {half : Half} {pattern : String} {kind : Kind}
    (h : find? half pattern = some kind) : kind.half = half := by
  have hmem : ∀ (table : List (String × Kind)), (∀ entry ∈ table, entry.2.half = half) →
      table.lookup pattern = some kind → kind.half = half := by
    intro table hall hfound
    induction table with
    | nil => simp at hfound
    | cons entry rest ih =>
      rw [List.lookup_cons] at hfound
      split at hfound
      · simp only [Option.some.injEq] at hfound
        exact hfound ▸ hall entry (List.mem_cons_self ..)
      · exact ih (fun e he => hall e (List.mem_cons_of_mem _ he)) hfound
  refine hmem (patterns half) ?_ h
  cases half <;>
    simp [patterns, effectPatterns, conditionPatterns, Kind.half]

end Catalog

end EffectText
