import EffectText.Catalog.Lookup
import EffectText.Log
import EffectText.Yield.Term

/-! # Statements

    A **statement** is a parsed effect text such as
    `[+1 Gold] [in this city] <after discovering [Currency]>`.

    Parsing cannot fail. The main clause gives the pattern and the parameters, the
    pattern gives the kind, and each condition is parsed in turn as a statement of
    the other half of the catalog. A text that the catalog does not know has no kind
    and does nothing.
-/

namespace EffectText

/-! ## Sources -/

/-- **Source**: what declared a statement. At least for people, never for rules. -/
structure Source where
  kind : Option Target
  name : Option String
  deriving DecidableEq, Repr, Inhabited

namespace Source

/-- The source of the given kind and name; none if both are missing. -/
def of? (kind : Option Target) (name : Option String) : Option Source :=
  if kind.isSome || name.isSome then some { kind, name } else none

/-- What a missing source is called. -/
def unknown : String := "unknown source"

/-- The text of a source. -/
def describe : Source → String
  | { kind := some kind, name := some name } => s!"{kind.name} '{name}'"
  | { kind := some kind, name := none } => kind.name
  | { kind := none, name := some name } => s!"'{name}'"
  | { kind := none, name := none } => unknown

end Source

/-! ## Parsing -/

/-- **Statement**: a parsed effect text, or a parsed condition. -/
structure Statement where
  /-- The half of the catalog that it was looked up in. -/
  half : Half
  /-- The text that was parsed. -/
  text : String
  /-- What declared it, if that is known. -/
  source : Option Source
  /-- The pattern of the main clause. -/
  pattern : String
  /-- The parameters of the main clause, in order. -/
  params : List String
  /-- What the catalog knows it as. -/
  kind : Option Kind
  /-- Its conditions, in order. -/
  conditions : List Statement

/-- A condition is shorter than the text it stands in. -/
theorem Clause.length_lt_of_mem_conditions {text condition : String}
    (h : condition ∈ Clause.conditions text) :
    condition.toList.length < text.toList.length := by
  simp only [Clause.conditions, Clause.conditionChars, List.map_map, List.mem_map,
    Function.comp_apply] at h
  obtain ⟨inner, hmem, rfl⟩ := h
  have htrim : ∀ s : List Char, (Text.trimEnd s).length ≤ s.length := by
    intro s
    induction s with
    | nil => simp [Text.trimEnd]
    | cons c rest ih =>
      unfold Text.trimEnd
      split
      · split <;> simp
      · next hkept => simpa [hkept] using ih
  have hstart : (Text.trimStart inner).length ≤ inner.length :=
    (List.dropWhile_sublist _).length_le
  have := Text.length_lt_of_mem_groups hmem
  have := htrim (Text.trimStart inner)
  simp only [String.toList_ofList, Text.trim]
  omega

namespace Statement

/-- **Parsing** in one half of the catalog. Conditions are parsed in the half of
    conditions and have no source. -/
def parse (half : Half) (source : Option Source) (text : String) : Statement :=
  let clause := Clause.main text
  let pattern := Clause.pattern clause
  { half
    text
    source
    pattern
    params := Clause.params clause
    kind := Catalog.find? half pattern
    conditions := (Clause.conditions text).attach.map fun condition =>
      parse .condition none condition.1 }
termination_by text.toList.length
decreasing_by exact Clause.length_lt_of_mem_conditions condition.2

/-- An effect without a source. -/
def effect (text : String) : Statement := parse .effect none text

/-- An effect declared by a game object. -/
def declared (kind : Option Target) (name : Option String) (text : String) : Statement :=
  parse .effect (Source.of? kind name) text

/-- A condition, without its angle brackets. -/
def condition (text : String) : Statement := parse .condition none text

/-- Parsing, with its recursion spelled out. -/
theorem parse_eq (half : Half) (source : Option Source) (text : String) :
    parse half source text =
      { half
        text
        source
        pattern := Clause.pattern (Clause.main text)
        params := Clause.params (Clause.main text)
        kind := Catalog.find? half (Clause.pattern (Clause.main text))
        conditions := (Clause.conditions text).map condition } := by
  rw [parse]
  congr 1
  change (Clause.conditions text).attach.map (condition ∘ Subtype.val) = _
  rw [← List.map_map, List.attach_map_subtype_val]

/-! ## Reading a statement -/

/-- All parameters: those of the main clause, then those of each condition. -/
def allParams (statement : Statement) : List String :=
  statement.params ++ statement.conditions.flatMap (·.params)

/-- Whether a parameter limits the effect to the city that declares it. -/
def isLocal (statement : Statement) : Bool := statement.params.contains "in this city"

/-- Whether a parameter keeps the effect from the city that declares it. -/
def isAntiLocal (statement : Statement) : Bool := statement.params.contains "in other cities"

/-- The yields of the first parameter that is a token of yields. -/
def yields (statement : Statement) : Yields :=
  match statement.params.find? Yields.isToken with
  | some token => .ofText token
  | none => .none

/-- Whether the statement has a kind with this flag. -/
def hasFlag (statement : Statement) (flag : Flag) : Bool :=
  statement.kind.any (·.hasFlag flag)

/-- What the source of the statement is called. -/
def sourceText (statement : Statement) : String :=
  match statement.source with
  | some source => source.describe
  | none => Source.unknown

/-- The text of a statement in quotes, after its kind if it has one. -/
def describe (statement : Statement) : String :=
  match statement.kind with
  | some kind => s!"{kind.name} (\"{statement.text}\")"
  | none => s!"\"{statement.text}\""

/-! ## Events of parsing -/

/-- What there is to tell about the statement alone. -/
def ownEvents (statement : Statement) : List Event :=
  if statement.kind.isNone then
    [.unrecognized statement.half statement.text statement.pattern]
  else []

/-- **Events of parsing**: the statement itself if the catalog does not know it,
    then its conditions. -/
def events : Statement → List Event
  | statement@{ conditions, .. } => ownEvents statement ++ eventsOf conditions
where
  /-- The events of statements, in order. -/
  eventsOf : List Statement → List Event
    | [] => []
    | statement :: rest => events statement ++ eventsOf rest

end Statement

end EffectText
