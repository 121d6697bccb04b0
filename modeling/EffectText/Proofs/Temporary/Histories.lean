import EffectText.Proofs.Temporary.Reloading

/-! # Histories of temporary statements

    A temporary statement keeps its parsed statement from the first time that it is asked
    for, and its text can be assigned at any time. So what it gives depends on the order of
    what was done with it: its **history**, a list of steps from the default value, the
    latest one first.

    * The statement after a history is the parse of the text that was there when it was
      first asked for since the value was last made anew, or of the present text if it has
      not been asked for since (`statement_after`).
    * Writing to JSON and reading back keeps the text and the turns. It keeps the statement
      exactly if that text is still there (`reload_agrees_iff`).
-/

namespace EffectText

/-- **Agreement** of statements in everything but their source. -/
structure Statement.Agrees (a b : Statement) : Prop where
  text : a.text = b.text
  pattern : a.pattern = b.pattern
  params : a.params = b.params
  kind : a.kind = b.kind
  conditions : a.conditions = b.conditions

namespace Temporary

/-! ## Steps -/

/-- A number of turns: an integer of thirty-two bits. -/
abbrev Turns := { n : Int // isInt32 n = true }

/-- **Step**: one thing done with a temporary statement. -/
inductive Step where
  /-- Replaces it by the default value. -/
  | default
  /-- Replaces it by a new one with the text of a statement. -/
  | new (statement : Statement) (turns : Turns)
  /-- Assigns the turns left. -/
  | setTurns (turns : Turns)
  /-- Assigns the text. -/
  | setText (text : String)
  /-- Replaces it by a copy. -/
  | clone
  /-- Replaces it by a new one with the text of its own statement. -/
  | rewrap
  /-- Asks for the statement. -/
  | ask
  /-- Writes it to JSON and reads that back. -/
  | reload
  /-- Reads it from JSON, if the text is accepted. -/
  | read (json : String)

/-- The value after a step. -/
def Step.apply (temporary : Temporary) : Step → Temporary
  | .default => {}
  | .new statement turns => ofStatement statement turns
  | .setTurns turns => { temporary with turnsLeft := turns }
  | .setText text => { temporary with text }
  | .clone => temporary
  | .rewrap => temporary.rewrapped
  | .ask => temporary.accessed
  | .reload => (ofJson? temporary.toJson).getD temporary
  | .read json => (ofJson? json).getD temporary

/-- The value after a history, whose latest step comes first. -/
def after : List Step → Temporary
  | [] => {}
  | step :: earlier => step.apply (after earlier)

/-- **First asked**: the text that was there when the statement was first asked for since
    the value was last made anew. -/
def asked : List Step → Option String
  | [] => none
  | .ask :: earlier => some ((asked earlier).getD (after earlier).text)
  | .read json :: earlier => if (ofJson? json).isSome then none else asked earlier
  | .setTurns _ :: earlier => asked earlier
  | .setText _ :: earlier => asked earlier
  | .clone :: earlier => asked earlier
  | _ :: _ => none

/-! ## What every history keeps -/

/-- **Sound** for the text that the statement was first asked for with, if it has been. -/
structure IsSound (temporary : Temporary) (asked : Option String) : Prop where
  /-- The turns fit in thirty-two bits, so that they can be read back. -/
  turns : isInt32 temporary.turnsLeft = true
  /-- What is kept is the parse of that text. -/
  parsed : temporary.parsed = asked.map Statement.effect

theorem IsFresh.isSound {temporary : Temporary} (h : temporary.IsFresh) :
    temporary.IsSound none := ⟨h.turns, h.parsed⟩

/-- What is given is the parse of the text that the statement was first asked for with, or
    else of the present text. -/
theorem IsSound.statement_eq {temporary : Temporary} {asked : Option String}
    (h : temporary.IsSound asked) :
    temporary.statement = .effect (asked.getD temporary.text) := by
  unfold statement
  rw [h.parsed]
  cases asked <;> rfl

/-- **Step**: no step breaks soundness. -/
theorem IsSound.step {earlier : List Step} (h : (after earlier).IsSound (asked earlier))
    (step : Step) : (after (step :: earlier)).IsSound (asked (step :: earlier)) := by
  cases step with
  | default => exact ⟨rfl, rfl⟩
  | new statement turns => exact ⟨turns.2, rfl⟩
  | setTurns turns => exact ⟨turns.2, h.parsed⟩
  | setText text => exact ⟨h.turns, h.parsed⟩
  | clone => exact h
  | rewrap => exact ⟨h.turns, rfl⟩
  | ask => exact ⟨h.turns, congrArg some h.statement_eq⟩
  | reload =>
    -- what was written is always accepted, so nothing is kept
    show ((ofJson? (after earlier).toJson).getD (after earlier)).IsSound none
    rw [ofJson?_toJson h.turns]
    exact ⟨h.turns, rfl⟩
  | read json =>
    -- a text that is refused changes neither the value nor its history
    show ((ofJson? json).getD (after earlier)).IsSound
      (if (ofJson? json).isSome then none else asked earlier)
    cases hread : ofJson? json with
    | none => exact h
    | some temporary => exact (isFresh_of_ofJson? hread).isSound

/-- **Run**: after every history the value is sound. -/
theorem isSound_after (history : List Step) : (after history).IsSound (asked history) := by
  induction history with
  | nil => exact ⟨rfl, rfl⟩
  | cons step earlier ih => exact ih.step step

/-- The statement after a history. -/
theorem statement_after (history : List Step) :
    (after history).statement = .effect ((asked history).getD (after history).text) :=
  (isSound_after history).statement_eq

/-- A copy was asked for before the text changed. -/
example : asked [.setText "b", .ask, .setTurns ⟨3, by decide⟩, .clone, .ask, .setText "a"] =
    some "a" := rfl

/-! ## Reloading -/

/-- **Reloading** succeeds after every history and keeps the text and the turns. It keeps
    the statement exactly if the text that this was first asked for with is still there. -/
theorem reload_agrees_iff (history : List Step) :
    ∃ reloaded, ofJson? (after history).toJson = some reloaded ∧
      reloaded.text = (after history).text ∧
      reloaded.turnsLeft = (after history).turnsLeft ∧
      (reloaded.statement.Agrees (after history).statement ↔
        ∀ text ∈ asked history, text = (after history).text) := by
  refine ⟨_, ofJson?_toJson (isSound_after history).turns, rfl, rfl, ?_⟩
  show (Statement.effect (after history).text).Agrees _ ↔ _
  rw [statement_after]
  constructor
  · intro hagrees text hasked
    have htext := hagrees.text
    rw [Option.mem_def.mp hasked] at htext
    simpa [Statement.effect, Statement.parse_eq] using htext.symm
  · intro hkept
    -- either nothing was asked, or the text is what it was then
    have hpresent : (asked history).getD (after history).text = (after history).text := by
      cases hasked : asked history with
      | none => rfl
      | some text => exact hkept text hasked
    rw [hpresent]
    exact ⟨rfl, rfl, rfl, rfl, rfl⟩

/-- If another text is assigned after asking, reading back gives another statement. -/
theorem reload_parses_again :
    ¬ ∃ reloaded,
      ofJson? (after [.setText "[+9 Gold]", .ask,
        .new (.effect "[+2 Food]") ⟨5, by decide⟩]).toJson = some reloaded ∧
      reloaded.statement.Agrees (after [.setText "[+9 Gold]", .ask,
        .new (.effect "[+2 Food]") ⟨5, by decide⟩]).statement := by
  rintro ⟨reloaded, hread, hagrees⟩
  rw [ofJson?_toJson (isSound_after _).turns] at hread
  obtain rfl := Option.some.inj hread
  have htext := hagrees.text
  rw [statement_after] at htext
  simp [statement, after, asked, Step.apply, ofStatement, Statement.effect,
    Statement.parse_eq] at htext

end Temporary

end EffectText
