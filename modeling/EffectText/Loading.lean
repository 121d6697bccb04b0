import EffectText.Content
import EffectText.Definition.ContentProblems
import EffectText.Ruleset

/-! # Loading definitions from files

    A file is **loaded** in three steps: its bytes are decoded as UTF-8, the text is
    read as a definition, and the definition is checked. Each step can fail, and the
    last one fails with all problems of the definition together.

    How a text is read is a parameter. Main statement: whatever a reader makes of a
    text, only a definition without problems is ever loaded
    (`loadDefinition_eq_ok_iff`).
-/

namespace EffectText

/-! ## Failures -/

/-- The format of a file. -/
inductive FileFormat where
  | toml
  | ron
  deriving DecidableEq, Repr, Inhabited

/-- The name of a format. -/
def FileFormat.name : FileFormat → String
  | .toml => "TOML"
  | .ron => "RON"

/-- **Load error**: why a file could not be loaded. -/
inductive LoadError where
  /-- There is no such file, or it is not UTF-8. -/
  | unreadable (path : String)
  /-- The text is not a definition in its format. -/
  | malformed (format : FileFormat) (path : String)
  /-- The definition has problems. -/
  | invalid (path : String) (problems : List Problem)
  deriving DecidableEq, Repr, Inhabited

/-- The message for a load error. -/
def LoadError.message : LoadError → String
  | .unreadable path => s!"reading '{path}'"
  | .malformed format path => s!"parsing {format.name} from '{path}'"
  | .invalid path problems =>
    s!"validation of '{path}' failed:\n" ++
      "\n".intercalate (problems.map fun problem => s!"- {problem.message}")

/-! ## The steps -/

/-- **Loading** a definition: the file is decoded, its text is read, and the definition
    is checked. -/
def loadDefinition {α : Type} (format : FileFormat) (read? : String → Option α)
    (problems : α → List Problem) (path : String) (bytes : Option ByteArray) :
    Except LoadError α :=
  match bytes.bind String.fromUTF8? with
  | none => .error (.unreadable path)
  | some text =>
    match read? text with
    | none => .error (.malformed format path)
    | some definition =>
      match problems definition with
      | [] => .ok definition
      | found => .error (.invalid path found)

/-- A definition is loaded exactly if the reader makes it of the text of the file, and
    it has no problems. -/
theorem loadDefinition_eq_ok_iff {α : Type} {format : FileFormat} {read? : String → Option α}
    {problems : α → List Problem} {path : String} {bytes : Option ByteArray} {definition : α} :
    loadDefinition format read? problems path bytes = .ok definition ↔
      ∃ text, bytes.bind String.fromUTF8? = some text ∧ read? text = some definition ∧
        problems definition = [] := by
  unfold loadDefinition
  constructor
  · intro h
    split at h
    · contradiction
    · next text hdecode =>
      split at h
      · contradiction
      · next found hread =>
        split at h
        · next hproblems =>
          obtain rfl := Except.ok.inj h
          exact ⟨text, hdecode, hread, hproblems⟩
        · contradiction
  · rintro ⟨text, hdecode, hread, hproblems⟩
    simp only [hdecode, hread, hproblems]

/-! ## Rulesets -/

/-- **Loading** a ruleset definition, with a reader for its text. -/
def RulesetDefinition.load (read? : String → Option RulesetDefinition) (path : String)
    (bytes : Option ByteArray) : Except LoadError RulesetDefinition :=
  loadDefinition .toml read? RulesetDefinition.problems path bytes

/-- **Loading** a ruleset, with a reader for the text of its definition. -/
def Ruleset.load (read? : String → Option RulesetDefinition) (path : String)
    (bytes : Option ByteArray) : Except LoadError Ruleset :=
  .ofDefinition <$> RulesetDefinition.load read? path bytes

/-- What there is to tell about a ruleset that was loaded. -/
def Ruleset.loadedEvent (ruleset : Ruleset) (path : String) : Event :=
  .rulesetLoaded ruleset.name path ruleset.eras.length ruleset.techs.length
    ruleset.policies.length

/-! ## Content -/

/-- **Loading** a content definition, with a reader for its text. -/
def ContentDefinition.load (read? : String → Option ContentDefinition) (path : String)
    (bytes : Option ByteArray) : Except LoadError ContentDefinition :=
  loadDefinition .ron read? ContentDefinition.problems path bytes

/-- What there is to tell about content that was loaded. -/
def ContentDefinition.loadedEvents (definition : ContentDefinition) (path : String) :
    List Event :=
  definition.events ++
    [.contentLoaded definition.parsed.length definition.objects.length path]

end EffectText
