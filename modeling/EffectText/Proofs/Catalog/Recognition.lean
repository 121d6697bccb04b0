import EffectText.Proofs.Clause.Plain
import EffectText.Statement
import Mathlib.Data.List.Nodup

/-! # What the catalog recognizes

    The authoring text of a kind is a template: its named slots stand for parameters.
    A kind **writes** a clause from parameters when the clause is the authoring text
    with the parameters in place of the slots.

    * A kind writes a clause from at most one list of parameters, and at most one kind
      writes it (`Kind.Writes.kind_eq`).
    * **Recognition** finds exactly that kind and those parameters
      (`Statement.recognizes_what_is_written`).

    Of the texts of the catalog, only two things are used: they are plain clauses, and
    no two of them have the same pattern (`Kind.exists_texts`).
-/

namespace EffectText

open Text

/-! ## The texts of the catalog -/

namespace Kind

theorem map_ofList_cons (cs : List Char) {texts : List String} {chars : List (List Char)}
    (h : texts = chars.map String.ofList) :
    (String.ofList cs :: texts) = (cs :: chars).map String.ofList := by
  rw [h]
  rfl

/-- The authoring texts are plain clauses with different patterns. The characters are
    named first, so that only lists of characters are computed with. -/
theorem exists_texts : ∃ chars : List (List Char),
    all.map (fun kind => kind.entry.text) = chars.map String.ofList ∧
    (chars.map Clause.patternChars).Nodup ∧
    ∀ text ∈ chars, Clause.IsPlainClause text := by
  apply Exists.intro
  apply And.intro
  · repeat apply map_ofList_cons
    exact List.map_nil.symm
  · decide +kernel

/-- Every authoring text is a plain clause. -/
theorem isPlainClause_text (kind : Kind) : Clause.IsPlainClause kind.entry.text.toList := by
  obtain ⟨chars, htexts, -, hplain⟩ := exists_texts
  have hmem : kind.entry.text ∈ chars.map String.ofList := by
    rw [← htexts]
    exact List.mem_map_of_mem (mem_all kind)
  obtain ⟨text, htext, heq⟩ := List.mem_map.mp hmem
  rw [← heq, String.toList_ofList]
  exact hplain text htext

/-- Every authoring text is its own main clause. -/
theorem main_text (kind : Kind) : Clause.main kind.entry.text = kind.entry.text :=
  (isPlainClause_text kind).main_eq

theorem pattern_eq (kind : Kind) : kind.pattern = Clause.pattern kind.entry.text := by
  simp only [pattern, Clause.extract, main_text]

/-- No two kinds have the same pattern. -/
theorem pattern_injective : Function.Injective pattern := by
  obtain ⟨chars, htexts, hnodup, -⟩ := exists_texts
  have hpatterns : all.map (fun kind => Clause.patternChars kind.entry.text.toList) =
      chars.map Clause.patternChars := by
    have := congrArg (List.map fun text : String => Clause.patternChars text.toList) htexts
    simpa [Function.comp_def] using this
  rw [← hpatterns] at hnodup
  intro kind other heq
  rw [pattern_eq, pattern_eq] at heq
  exact List.inj_on_of_nodup_map hnodup (mem_all kind) (mem_all other) (String.ofList_inj.mp heq)

end Kind

/-! ## Lookup -/

namespace Catalog

theorem mem_patterns_iff {half : Half} {pattern : String} {kind : Kind} :
    (pattern, kind) ∈ patterns half ↔ kind.half = half ∧ kind.pattern = pattern := by
  have heffects : ∀ e, e ∈ EffectKind.all := fun e => by
    simpa [Kind.all] using Kind.mem_all (.effect e)
  have hconditions : ∀ c, c ∈ ConditionKind.all := fun c => by
    simpa [Kind.all] using Kind.mem_all (.condition c)
  cases half with
  | effect => cases kind <;> simp [patterns, effectPatterns, Kind.half, heffects, eq_comm]
  | condition =>
    cases kind <;> simp [patterns, conditionPatterns, Kind.half, hconditions, eq_comm]

/-- **Lookup** finds the kind of the half that has the pattern. -/
theorem find?_eq_some_iff {half : Half} {pattern : String} {kind : Kind} :
    find? half pattern = some kind ↔ kind.half = half ∧ kind.pattern = pattern := by
  have hsound : ∀ {found : Kind}, find? half pattern = some found → found.pattern = pattern := by
    intro found hfound
    obtain ⟨before, after, hsplit, -⟩ := List.lookup_eq_some_iff.mp hfound
    have hmem : (pattern, found) ∈ patterns half := by simp [hsplit]
    exact (mem_patterns_iff.mp hmem).2
  constructor
  · intro hfound
    exact ⟨half_eq_of_find? hfound, hsound hfound⟩
  · intro hkind
    cases hfound : find? half pattern with
    | none =>
      have := List.lookup_eq_none_iff.mp hfound _ (mem_patterns_iff.mpr hkind)
      simp at this
    | some found =>
      have heq : found.pattern = kind.pattern := (hsound hfound).trans hkind.2.symm
      rw [Kind.pattern_injective heq]

end Catalog

/-! ## What a kind writes -/

namespace Kind

/-- How many slots the authoring text of a kind has. -/
def slotCount (kind : Kind) : Nat := (Clause.params kind.entry.text).length

/-- **Written text**: the authoring text with the parameters in place of its named
    slots, in order. -/
def written (kind : Kind) (params : List String) : String :=
  Clause.replace kind.entry.text params

example : (Kind.effect .gainYield).written ["5", "Gold"] = "Gain [5] [Gold]" := by decide

/-- **Writing**: the clause is the authoring text of the kind with these parameters in
    its slots, one for each slot. No square bracket stands in a parameter. -/
structure Writes (kind : Kind) (params : List String) (clause : String) : Prop where
  length_eq : params.length = kind.slotCount
  unbracketed : ∀ param ∈ params, Unbracketed .square param.toList
  clause_eq : clause = kind.written params

/-- The pattern of a written clause is the pattern of the kind. -/
theorem Writes.pattern_eq {kind : Kind} {params : List String} {clause : String}
    (h : kind.Writes params clause) : Clause.pattern clause = kind.pattern := by
  rw [h.clause_eq, Kind.pattern_eq]
  exact Clause.pattern_replace h.unbracketed kind.entry.text

/-- The parameters of a written clause are the parameters that it was written from. -/
theorem Writes.params_eq {kind : Kind} {params : List String} {clause : String}
    (h : kind.Writes params clause) : Clause.params clause = params := by
  have hparams := Clause.params_replace h.unbracketed kind.entry.text
  have hlength : (Clause.params kind.entry.text).length = params.length := h.length_eq.symm
  rw [hlength, List.take_length] at hparams
  rw [h.clause_eq]
  show Clause.params (Clause.replace kind.entry.text params) = params
  simpa [List.rightpad] using hparams

/-- A clause with the pattern of a kind is written by the kind from its parameters. -/
theorem writes_params {kind : Kind} {clause : String}
    (h : Clause.pattern clause = kind.pattern) : kind.Writes (Clause.params clause) clause := by
  rw [pattern_eq] at h
  constructor
  case length_eq =>
    show (Clause.params clause).length = (Clause.params kind.entry.text).length
    rw [← Clause.markers_pattern, ← Clause.markers_pattern, h]
  case unbracketed =>
    exact fun param hparam => Clause.unbracketed_of_mem_params hparam
  case clause_eq =>
    show clause = Clause.replace kind.entry.text (Clause.params clause)
    rw [← Clause.fill_pattern, ← h, Clause.fill_pattern_params]

/-- **Writing is taking apart**: a kind writes a clause from parameters if and only if
    the clause has the pattern of the kind and these parameters. -/
theorem writes_iff {kind : Kind} {params : List String} {clause : String} :
    kind.Writes params clause ↔
      Clause.pattern clause = kind.pattern ∧ Clause.params clause = params := by
  constructor
  · exact fun h => ⟨h.pattern_eq, h.params_eq⟩
  · rintro ⟨hpattern, rfl⟩
    exact writes_params hpattern

/-- At most one kind writes a clause. -/
theorem Writes.kind_eq {kind other : Kind} {params others : List String} {clause : String}
    (h : kind.Writes params clause) (h' : other.Writes others clause) : other = kind :=
  pattern_injective (h'.pattern_eq.symm.trans h.pattern_eq)

end Kind

/-! ## Recognition -/

namespace Statement

/-- A statement has a kind if and only if the kind belongs to the half and writes the
    main clause. -/
theorem kind_parse_eq_some_iff {half : Half} {source : Option Source} {text : String}
    {kind : Kind} :
    (parse half source text).kind = some kind ↔
      kind.half = half ∧ ∃ params, kind.Writes params (Clause.main text) := by
  rw [parse_eq, Catalog.find?_eq_some_iff]
  constructor
  · rintro ⟨hhalf, hpattern⟩
    exact ⟨hhalf, _, Kind.writes_params hpattern.symm⟩
  · rintro ⟨hhalf, params, hwrites⟩
    exact ⟨hhalf, hwrites.pattern_eq.symm⟩

theorem params_parse {half : Half} {source : Option Source} {text : String} :
    (parse half source text).params = Clause.params (Clause.main text) := by
  rw [parse_eq]

/-- The two halves of the catalog are apart: an effect is no condition. -/
theorem kind_condition_of_effect {kind : EffectKind} {params : List String} {text : String}
    (h : (Kind.effect kind).Writes params (Clause.main text)) : (condition text).kind = none := by
  rw [Option.eq_none_iff_forall_ne_some]
  intro other hother
  obtain ⟨hhalf, others, hwrites⟩ := kind_parse_eq_some_iff.mp hother
  rw [h.kind_eq hwrites] at hhalf
  simp [Kind.half] at hhalf

/-- **Recognition.** Parsing gives a text a kind of its half of the catalog exactly if
    the kind writes the main clause of the text. The parameters of the statement are
    then the ones that the clause is written from, and no other kind writes it, from
    whatever parameters. A statement that no kind writes has no kind. This holds for
    effects (`effect`, `declared`) and for conditions (`condition`) alike. -/
theorem recognizes_what_is_written (half : Half) (source : Option Source) (text : String) :
    (∀ kind : Kind, kind.half = half →
      ((parse half source text).kind = some kind ↔
        ∃ params, kind.Writes params (Clause.main text))) ∧
    (∀ (kind : Kind) (params : List String), kind.Writes params (Clause.main text) →
      (parse half source text).params = params ∧
      ∀ (other : Kind) (others : List String),
        other.Writes others (Clause.main text) → other = kind ∧ others = params) ∧
    ((parse half source text).kind = none ↔
      ∀ (kind : Kind) (params : List String), kind.half = half →
        ¬ kind.Writes params (Clause.main text)) := by
  refine ⟨?found, ?unique, ?none⟩
  case found =>
    intro kind hhalf
    rw [kind_parse_eq_some_iff]
    exact ⟨And.right, fun hwrites => ⟨hhalf, hwrites⟩⟩
  case unique =>
    intro kind params hwrites
    refine ⟨params_parse.trans hwrites.params_eq, ?_⟩
    intro other others hother
    exact ⟨hwrites.kind_eq hother, hother.params_eq.symm.trans hwrites.params_eq⟩
  case none =>
    rw [Option.eq_none_iff_forall_ne_some]
    constructor
    · intro hnone kind params hhalf hwrites
      exact hnone kind (kind_parse_eq_some_iff.mpr ⟨hhalf, params, hwrites⟩)
    · intro hnone kind hsome
      obtain ⟨hhalf, params, hwrites⟩ := kind_parse_eq_some_iff.mp hsome
      exact hnone kind params hhalf hwrites

end Statement

end EffectText
