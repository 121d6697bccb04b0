import EffectText.Content
import EffectText.Proofs.Index.Grouping
import EffectText.Proofs.Statement.Verdict

/-! # Two indexes of the same statements

    An index by kind goes by what parsing found. An index by pattern finds the statements
    of a kind by the pattern that the catalog has for it, and this pattern may also have
    been parsed in the other half of the catalog, where it is no kind at all.

    * `Index.kinds_agree_with_patterns`: the two indexes differ in such statements only,
      so they agree when all statements were parsed in one half.
-/

namespace EffectText

/-! ## Kinds and patterns -/

theorem Statement.half_parse (half : Half) (source : Option Source) (text : String) :
    (parse half source text).half = half := by
  rw [parse_eq]

/-- A parsed statement has a kind exactly if the kind belongs to its half of the catalog
    and has its pattern. -/
theorem Statement.IsParsed.kind_eq_some_iff {statement : Statement} (h : statement.IsParsed)
    {kind : Kind} :
    statement.kind = some kind ↔
      kind.half = statement.half ∧ kind.pattern = statement.pattern := by
  obtain ⟨half, source, text, rfl⟩ := h
  rw [parse_eq]
  exact Catalog.find?_eq_some_iff

/-- The statements of a content definition are parsed effects. -/
theorem ContentDefinition.isParsed_and_half_of_mem_parsed {definition : ContentDefinition}
    {statement : Statement} (h : statement ∈ definition.parsed) :
    statement.IsParsed ∧ statement.half = .effect := by
  obtain ⟨object, -, hobject⟩ := List.mem_flatMap.mp h
  obtain ⟨text, -, rfl⟩ := List.mem_map.mp hobject
  exact ⟨⟨_, _, _, rfl⟩, Statement.half_parse _ _ _⟩

/-! ## Indexes after the same operations -/

namespace Index

variable {α : Type} (statement : α → Statement) (operations : List (Operation α))

/-- The elements of a kind are those with its pattern that were parsed in its half. -/
theorem get_run_eq_filter_ofKind
    (hparsed : ∀ element ∈ history operations, (statement element).IsParsed) (kind : Kind) :
    (run operations : ByKind statement).get kind =
      (ByPattern.ofKind (run operations : ByPattern statement) kind).filter fun element =>
        (statement element).half = kind.half := by
  unfold ByPattern.ofKind
  rw [(holds_run operations).get_eq_filter, (holds_run operations).get_eq_filter,
    List.filter_filter]
  apply List.filter_congr
  intro element hmem
  have hkind : (statement element).kind = some kind ↔
      kind.half = (statement element).half ∧ kind.pattern = (statement element).pattern :=
    (hparsed element hmem).kind_eq_some_iff
  simp only [kindKey, patternKey, hkind, Option.some.injEq, Bool.decide_and,
    eq_comm (a := kind.half), eq_comm (a := kind.pattern)]

/-- If all elements were parsed in the half of a kind, nothing is filtered out. -/
theorem get_run_eq_ofKind {kind : Kind}
    (hparsed : ∀ element ∈ history operations, (statement element).IsParsed)
    (hhalf : ∀ element ∈ history operations, (statement element).half = kind.half) :
    (run operations : ByKind statement).get kind =
      ByPattern.ofKind (run operations : ByPattern statement) kind := by
  rw [get_run_eq_filter_ofKind statement operations hparsed, List.filter_eq_self]
  intro element hmem
  unfold ByPattern.ofKind at hmem
  rw [(holds_run operations).get_eq_filter] at hmem
  exact decide_eq_true (hhalf element (List.mem_of_mem_filter hmem))

/-- **Agreement.** After any operations on two indexes of the same parsed statements, the
    elements that the index by kind has for a kind are those that the index by pattern
    finds for it and that were parsed in the half of the kind, in the same order. If all
    were parsed in this half, both answer the same. So it is with the kinds of effect and
    the statements of a content definition. -/
theorem kinds_agree_with_patterns :
    ((∀ element ∈ history operations, (statement element).IsParsed) → ∀ kind : Kind,
      (run operations : ByKind statement).get kind =
        ((ByPattern.ofKind (run operations : ByPattern statement) kind).filter fun element =>
          (statement element).half = kind.half) ∧
      ((∀ element ∈ history operations, (statement element).half = kind.half) →
        (run operations : ByKind statement).get kind =
          ByPattern.ofKind (run operations : ByPattern statement) kind)) ∧
    ∀ (definition : ContentDefinition) (kind : EffectKind),
      (ofList definition.parsed : ByKind id).get (.effect kind) =
        ByPattern.ofKind (ofList definition.parsed : ByPattern id) (.effect kind) := by
  constructor
  · intro hparsed kind
    exact ⟨get_run_eq_filter_ofKind statement operations hparsed kind,
      get_run_eq_ofKind statement operations hparsed⟩
  · intro definition kind
    have hparsed : ∀ statement ∈ definition.parsed, statement.IsParsed := fun _ h =>
      (ContentDefinition.isParsed_and_half_of_mem_parsed h).1
    have hhalf : ∀ statement ∈ definition.parsed, statement.half = .effect := fun _ h =>
      (ContentDefinition.isParsed_and_half_of_mem_parsed h).2
    -- an index of a list is what one operation makes of the empty one
    exact get_run_eq_ofKind id [.ofList definition.parsed] hparsed hhalf

/-- A text that is an effect and no condition, parsed as both: the index by pattern finds
    both statements, and the index by kind only the effect. -/
theorem kinds_agree_with_patterns_mixed :
    let text := "[+1 Gold]"
    let mixed : List (Operation Statement) :=
      [.insert (.condition text), .insertMany [.effect text]]
    let effects : List (Operation Statement) := [.ofList [.effect text]]
    (∀ statement ∈ history mixed, statement.IsParsed) ∧
    ByPattern.ofKind (run mixed : ByPattern id) (.effect .yields) =
      [.condition text, .effect text] ∧
    (run mixed : ByKind id).get (.effect .yields) =
      ([.condition text, .effect text].filter fun statement => statement.half = .effect) ∧
    (∀ statement ∈ history effects, statement.IsParsed ∧ statement.half = .effect) ∧
    (run effects : ByKind id).get (.effect .yields) =
      ByPattern.ofKind (run effects : ByPattern id) (.effect .yields) := by
  intro text mixed effects
  have hpattern : ∀ half, (Statement.parse half none text).pattern =
      (Kind.effect .yields).pattern := by
    intro half
    rw [Statement.parse_eq]
    show Clause.pattern (Clause.main "[+1 Gold]") = _
    decide
  have hmixed : ∀ statement ∈ history mixed, statement.IsParsed := by
    intro statement hmem
    obtain rfl | rfl := List.mem_pair.mp hmem
    · exact ⟨_, _, _, rfl⟩
    · exact Statement.isParsed_effect text
  have hfound : ByPattern.ofKind (run mixed : ByPattern id) (.effect .yields) =
      [.condition text, .effect text] := by
    apply ((holds_run mixed).get_eq_filter _).trans (List.filter_eq_self.mpr _)
    intro statement hmem
    obtain rfl | rfl := List.mem_pair.mp hmem
    · exact decide_eq_true (congrArg some (hpattern .condition))
    · exact decide_eq_true (congrArg some (hpattern .effect))
  have heffects : ∀ statement ∈ history effects,
      statement.IsParsed ∧ statement.half = .effect := by
    intro statement hmem
    obtain rfl := List.mem_singleton.mp hmem
    exact ⟨Statement.isParsed_effect text, Statement.half_parse _ _ _⟩
  obtain ⟨hkinds, -⟩ := kinds_agree_with_patterns id mixed
  obtain ⟨hfilter, -⟩ := hkinds hmixed (.effect .yields)
  obtain ⟨hkinds', -⟩ := kinds_agree_with_patterns id effects
  obtain ⟨-, hsame⟩ := hkinds' (fun statement h => (heffects statement h).1) (.effect .yields)
  refine ⟨hmixed, hfound, ?_, heffects, ?_⟩
  · rw [hfilter, hfound]
    rfl
  · exact hsame fun statement h => (heffects statement h).2

end Index

end EffectText
