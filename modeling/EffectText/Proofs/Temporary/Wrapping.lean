import EffectText.Condition.Registry
import EffectText.Proofs.Temporary.Histories

/-! # Wrapping keeps the meaning

    Making a temporary statement keeps nothing of a statement but its text. Whoever asks for
    the statement gets the text parsed again. So a statement **keeps its meaning** if all that
    is read off it is decided by its text: everything is, but for the source.

    * Statements that agree mean the same (`Statement.Agrees.sameMeaning`): what is read off
      them, and their verdicts by every registry, come from the parts that agree.
    * **Invariant**: wrapping, asking and reloading leave the text and the turns
      (`Temporary.Wraps.keeps`), and reloading cannot fail (`Temporary.Wraps.progress`).
    * `Temporary.wrapping_keeps_meaning`: after any number of reloads, with or without asking
      in between, the turns and the meaning are the same, and the source is gone.
-/

namespace EffectText

namespace Statement

/-! ## What a text decides -/

/-- **Same meaning**: the statements agree, and so does all that is read off them, verdicts
    by every registry included. -/
structure SameMeaning (a b : Statement) : Prop extends Agrees a b where
  allParams : a.allParams = b.allParams
  isLocal : a.isLocal = b.isLocal
  isAntiLocal : a.isAntiLocal = b.isAntiLocal
  yields : a.yields = b.yields
  hasFlag : ∀ flag, a.hasFlag flag = b.hasFlag flag
  /-- With a snapshot and without one. -/
  verdict : ∀ {W : World} (registry : Registry W) (s : Option (Snapshot W)),
    a.appliesBy registry s = b.appliesBy registry s

/-- What is read off a statement is read off the parts in which it can agree with another. -/
theorem Agrees.sameMeaning {a b : Statement} (h : a.Agrees b) : a.SameMeaning b := by
  constructor
  case toAgrees => exact h
  case allParams =>
    unfold allParams
    rw [h.params, h.conditions]
  case isLocal =>
    unfold isLocal
    rw [h.params]
  case isAntiLocal =>
    unfold isAntiLocal
    rw [h.params]
  case yields =>
    unfold yields
    rw [h.params]
  case hasFlag =>
    intro flag
    unfold hasFlag
    rw [h.kind]
  case verdict =>
    intro W registry s
    cases s with
    | none => exact congrArg List.isEmpty h.conditions
    | some s => exact congrArg (List.all · fun c => registry.evaluate c s) h.conditions

/-- **Built** as an effect: without a source, or declared by a game object. -/
inductive IsBuilt : Statement → Prop where
  | effect (text : String) : IsBuilt (.effect text)
  | declared (target : Option Target) (name : Option String) (text : String) :
      IsBuilt (.declared target name text)

/-- Parsing the text of an effect again loses nothing but its source. -/
theorem IsBuilt.agrees {statement : Statement} (h : statement.IsBuilt) :
    (Statement.effect statement.text).Agrees statement := by
  have hparse : ∀ source text,
      (Statement.effect (parse .effect source text).text).Agrees (parse .effect source text) := by
    intro source text
    rw [Statement.effect, parse_eq, parse_eq]
    exact ⟨rfl, rfl, rfl, rfl, rfl⟩
  cases h with
  | effect text => exact hparse none text
  | declared target name text => exact hparse (Source.of? target name) text

end Statement

namespace Temporary

/-! ## Reloading again and again -/

/-- **Wraps**: what a statement can become when it is wrapped for some turns and reloaded so
    many times. In between it may be asked for. -/
inductive Wraps (statement : Statement) (turns : Turns) : Nat → Temporary → Prop where
  /-- Wrapped, and not yet reloaded. -/
  | new : Wraps statement turns 0 (ofStatement statement turns)
  /-- Asked for its statement, which is kept. -/
  | ask {reloads : Nat} {temporary : Temporary}
      (earlier : Wraps statement turns reloads temporary) :
      Wraps statement turns reloads temporary.accessed
  /-- Written to JSON and read back. -/
  | reload {reloads : Nat} {temporary reloaded : Temporary}
      (earlier : Wraps statement turns reloads temporary)
      (read : ofJson? temporary.toJson = some reloaded) :
      Wraps statement turns (reloads + 1) reloaded

variable {statement : Statement} {turns : Turns} {reloads : Nat} {temporary : Temporary}

/-- **Invariant**: the text and the turns stay, and what is asked for is the text parsed as an
    effect, whether it was kept or not. -/
theorem Wraps.keeps (h : Wraps statement turns reloads temporary) :
    temporary.text = statement.text ∧ temporary.turnsLeft = turns ∧
      temporary.statement = .effect statement.text := by
  induction h with
  | new => exact ⟨rfl, rfl, rfl⟩
  | ask earlier ih => exact ih
  | @reload _ before reloaded earlier read ih =>
    obtain ⟨htext, hturns, -⟩ := ih
    have hrange : isInt32 before.turnsLeft = true := by
      rw [hturns]
      exact turns.2
    -- what is read back has no statement to keep
    rw [ofJson?_toJson hrange] at read
    obtain rfl := Option.some.inj read
    exact ⟨htext, hturns, congrArg Statement.effect htext⟩

/-- **Progress**: what was wrapped can always be reloaded once more. -/
theorem Wraps.progress (h : Wraps statement turns reloads temporary) :
    ∃ reloaded, ofJson? temporary.toJson = some reloaded ∧
      Wraps statement turns (reloads + 1) reloaded := by
  have hrange : isInt32 temporary.turnsLeft = true := by
    rw [h.keeps.2.1]
    exact turns.2
  exact ⟨_, ofJson?_toJson hrange, .reload h (ofJson?_toJson hrange)⟩

/-- **Run**: any number of reloads is possible. -/
theorem exists_wraps (statement : Statement) (turns : Turns) (reloads : Nat) :
    ∃ temporary, Wraps statement turns reloads temporary := by
  induction reloads with
  | zero => exact ⟨_, .new⟩
  | succ reloads ih =>
    obtain ⟨temporary, hwraps⟩ := ih
    obtain ⟨reloaded, -, hreloaded⟩ := hwraps.progress
    exact ⟨reloaded, hreloaded⟩

/-- **Wrapping keeps the meaning.** An effect can be wrapped for any turns and reloaded any
    number of times, and each time it can be reloaded once more. The turns and the text are
    those that were wrapped, what is given means the same as the effect, and it has no
    source. -/
theorem wrapping_keeps_meaning (hbuilt : statement.IsBuilt) (turns : Turns) (reloads : Nat) :
    (∃ temporary, Wraps statement turns reloads temporary) ∧
      ∀ temporary, Wraps statement turns reloads temporary →
        (∃ reloaded, ofJson? temporary.toJson = some reloaded ∧
          Wraps statement turns (reloads + 1) reloaded) ∧
        temporary.turnsLeft = turns ∧
        temporary.statement.SameMeaning statement ∧
        temporary.statement.source = none := by
  refine ⟨exists_wraps statement turns reloads, ?_⟩
  intro temporary hwraps
  obtain ⟨-, hturns, hstatement⟩ := hwraps.keeps
  refine ⟨hwraps.progress, hturns, ?meaning, ?source⟩
  case meaning =>
    rw [hstatement]
    exact hbuilt.agrees.sameMeaning
  case source =>
    rw [hstatement, Statement.effect, Statement.parse_eq]

/-- A building's effect with a condition, asked for and reloaded twice. -/
theorem wrapping_keeps_meaning_declared :
    (Statement.declared (some .building) (some "Granary") "[+2 Food] <when at war>").IsBuilt ∧
    ∃ temporary, Wraps
        (.declared (some .building) (some "Granary") "[+2 Food] <when at war>")
        ⟨5, by decide⟩ 2 temporary ∧
      temporary.turnsLeft = 5 ∧
      temporary.statement.SameMeaning
        (.declared (some .building) (some "Granary") "[+2 Food] <when at war>") ∧
      temporary.statement.source = none := by
  have hbuilt : (Statement.declared (some .building) (some "Granary")
      "[+2 Food] <when at war>").IsBuilt := .declared _ _ _
  obtain ⟨hexists, hkeeps⟩ := wrapping_keeps_meaning hbuilt ⟨5, by decide⟩ 2
  obtain ⟨temporary, hwraps⟩ := hexists
  obtain ⟨-, hturns, hmeaning, hsource⟩ := hkeeps temporary hwraps
  exact ⟨hbuilt, temporary, hwraps, hturns, hmeaning, hsource⟩

end Temporary

end EffectText
