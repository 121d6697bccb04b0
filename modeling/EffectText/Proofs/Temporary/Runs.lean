import EffectText.Proofs.Temporary.Histories

/-! # The text that a temporary statement goes by

    What a temporary statement gives depends on its history, but on little of it: it
    **goes by** one text (`GoesBy`). If it has been asked for its statement since it was last
    made anew, this is the text that was there at the first asking, whatever has been
    assigned since. If it has not, this is the present text.

    The text is told from the steps alone, without a look at what the value keeps.

    * Every history goes by exactly one text, the one that `asked` tells (`goesBy_iff`).
    * The turns are those of the latest step that sets any (`turnsLeft_after`).
    * `runs_go_by_one_text`: what a temporary statement gives after any history, and what
      copying, rewrapping and refused JSON do to it.
-/

namespace EffectText.Temporary

/-! ## Since the value was made anew -/

/-- **Making anew**: the step leaves a value that has never been asked for its statement.
    A JSON text that is refused makes nothing anew. -/
def Step.MakesAnew : Step → Prop
  | .default | .new _ _ | .rewrap | .reload => True
  | .read json => (ofJson? json).isSome = true
  | .setTurns _ | .setText _ | .clone | .ask => False

/-- **Unasked** since the value was made anew: whenever the statement was asked for, the
    value was made anew later on. -/
def IsUnasked (history : List Step) : Prop :=
  ∀ later earlier, history = later ++ .ask :: earlier → ∃ step ∈ later, step.MakesAnew

/-- **Goes by**: the text that decides what the statement is after a history. -/
inductive GoesBy : List Step → String → Prop where
  /-- The text at the first asking: nobody had asked before, and the value has not been
      made anew since. -/
  | asked {later earlier : List Step} (kept : ∀ step ∈ later, ¬ step.MakesAnew)
      (first : IsUnasked earlier) : GoesBy (later ++ .ask :: earlier) (after earlier).text
  /-- The present text, if nobody has asked. -/
  | unasked {history : List Step} (never : IsUnasked history) :
      GoesBy history (after history).text

/-! ## What has been asked, step by step -/

theorem asked_cons_of_makesAnew {step : Step} (h : step.MakesAnew) (earlier : List Step) :
    asked (step :: earlier) = none := by
  cases step with
  | default | new | rewrap | reload => rfl
  | read json => exact if_pos h
  | setTurns | setText | clone | ask => exact absurd h id

theorem asked_cons_of_ne {step : Step} (h : ¬ step.MakesAnew) (hask : step ≠ .ask)
    (earlier : List Step) : asked (step :: earlier) = asked earlier := by
  cases step with
  | default | new | rewrap | reload => exact absurd trivial h
  | read json => exact if_neg h
  | setTurns | setText | clone => rfl
  | ask => exact absurd rfl hask

/-- **Step**: making anew forgets every asking, and nothing else does. -/
theorem isUnasked_cons_iff {step : Step} {earlier : List Step} :
    IsUnasked (step :: earlier) ↔ step.MakesAnew ∨ (step ≠ .ask ∧ IsUnasked earlier) := by
  constructor
  · intro h
    by_cases hanew : step.MakesAnew
    · exact .inl hanew
    · refine .inr ⟨?_, ?_⟩
      · rintro rfl
        obtain ⟨_, hmem, _⟩ := h [] earlier rfl
        exact absurd hmem List.not_mem_nil
      · intro later before heq
        obtain ⟨maker, hmem, hmakes⟩ := h (step :: later) before (congrArg (step :: ·) heq)
        rcases List.mem_cons.mp hmem with rfl | hlater
        · exact absurd hmakes hanew
        · exact ⟨maker, hlater, hmakes⟩
  · intro h later before heq
    cases later with
    | nil =>
      -- the step is the asking itself, which makes nothing anew
      obtain ⟨rfl, -⟩ := List.cons.inj heq
      rcases h with hanew | ⟨hask, -⟩
      · exact absurd hanew id
      · exact absurd rfl hask
    | cons first later =>
      obtain ⟨rfl, hrest⟩ := List.cons.inj heq
      rcases h with hanew | ⟨-, hunasked⟩
      · exact ⟨step, List.mem_cons_self, hanew⟩
      · obtain ⟨maker, hmem, hmakes⟩ := hunasked later before hrest
        exact ⟨maker, List.mem_cons_of_mem _ hmem, hmakes⟩

/-- **Run**: nothing has been asked exactly in the histories that are unasked. -/
theorem asked_eq_none_iff {history : List Step} : asked history = none ↔ IsUnasked history := by
  induction history with
  | nil =>
    refine ⟨fun _ later earlier heq => ?_, fun _ => rfl⟩
    simp at heq
  | cons step earlier ih =>
    rw [isUnasked_cons_iff, ← ih]
    by_cases hanew : step.MakesAnew
    · simp [asked_cons_of_makesAnew hanew, hanew]
    · by_cases hask : step = .ask
      · subst hask
        simp [asked, hanew]
      · rw [asked_cons_of_ne hanew hask]
        simp [hanew, hask]

/-- After the first asking, its text is kept until the value is made anew. -/
theorem asked_append_ask {later earlier : List Step} (hkept : ∀ step ∈ later, ¬ step.MakesAnew)
    (hfirst : asked earlier = none) :
    asked (later ++ .ask :: earlier) = some (after earlier).text := by
  induction later with
  | nil =>
    show some ((asked earlier).getD (after earlier).text) = some (after earlier).text
    rw [hfirst]
    rfl
  | cons step later ih =>
    obtain ⟨hstep, hlater⟩ := List.forall_mem_cons.mp hkept
    have hih := ih hlater
    by_cases hask : step = .ask
    · subst hask
      show some ((asked (later ++ .ask :: earlier)).getD _) = some (after earlier).text
      rw [hih]
      rfl
    · rw [List.cons_append, asked_cons_of_ne hstep hask, hih]

/-- What has been asked was asked a first time. -/
theorem exists_first_of_asked {history : List Step} {text : String}
    (h : asked history = some text) :
    ∃ later earlier, history = later ++ .ask :: earlier ∧ (∀ step ∈ later, ¬ step.MakesAnew) ∧
      asked earlier = none ∧ text = (after earlier).text := by
  induction history with
  | nil => exact absurd h (by simp [asked])
  | cons step earlier ih =>
    have hanew : ¬ step.MakesAnew := by
      intro hanew
      rw [asked_cons_of_makesAnew hanew] at h
      exact absurd h (by simp)
    -- an earlier first asking stays the first one
    have hearlier (hsome : asked earlier = some text) :
        ∃ later before, step :: earlier = later ++ .ask :: before ∧
          (∀ step ∈ later, ¬ step.MakesAnew) ∧ asked before = none ∧
            text = (after before).text := by
      obtain ⟨later, before, rfl, hkept, hfirst, htext⟩ := ih hsome
      exact ⟨step :: later, before, rfl, List.forall_mem_cons.mpr ⟨hanew, hkept⟩, hfirst, htext⟩
    by_cases hask : step = .ask
    · subst hask
      obtain rfl := Option.some.inj h
      cases hasked : asked earlier with
      | none => exact ⟨[], earlier, rfl, by simp, hasked, rfl⟩
      | some text =>
        rw [hasked] at hearlier
        exact hearlier rfl
    · rw [asked_cons_of_ne hanew hask] at h
      exact hearlier h

/-- **The text** that a history goes by: the one that was asked for first, or else the
    present one. -/
theorem goesBy_iff {history : List Step} {text : String} :
    GoesBy history text ↔ text = (asked history).getD (after history).text := by
  constructor
  · intro h
    cases h with
    | asked kept first => rw [asked_append_ask kept (asked_eq_none_iff.mpr first), Option.getD_some]
    | unasked never => rw [asked_eq_none_iff.mpr never, Option.getD_none]
  · rintro rfl
    cases hasked : asked history with
    | none => exact .unasked (asked_eq_none_iff.mp hasked)
    | some text =>
      obtain ⟨later, earlier, rfl, hkept, hfirst, rfl⟩ := exists_first_of_asked hasked
      exact .asked hkept (asked_eq_none_iff.mp hfirst)

/-! ## Turns -/

/-- The turns that a step sets, if it sets any. -/
def Step.turns? : Step → Option Int
  | .default => some 0
  | .new _ turns => some turns
  | .setTurns turns => some turns
  | .read json => (ofJson? json).map (·.turnsLeft)
  | .setText _ | .clone | .rewrap | .ask | .reload => none

/-- **Step**: a step that sets no turns keeps them. -/
theorem turnsLeft_after_cons (step : Step) (earlier : List Step) :
    (after (step :: earlier)).turnsLeft = step.turns?.getD (after earlier).turnsLeft := by
  cases step with
  | default | new | setTurns | setText | clone | rewrap | ask => rfl
  | reload =>
    show ((ofJson? (after earlier).toJson).getD (after earlier)).turnsLeft = _
    rw [ofJson?_toJson (isSound_after earlier).turns]
    rfl
  | read json =>
    show ((ofJson? json).getD (after earlier)).turnsLeft =
      ((ofJson? json).map (·.turnsLeft)).getD (after earlier).turnsLeft
    cases ofJson? json <;> rfl

/-- **Run**: the turns of the latest step that set any. -/
theorem turnsLeft_after (history : List Step) :
    (after history).turnsLeft = (history.findSome? Step.turns?).getD 0 := by
  induction history with
  | nil => rfl
  | cons step earlier ih =>
    rw [turnsLeft_after_cons, List.findSome?_cons, ih]
    cases step.turns? <;> rfl

/-! ## Runs -/

theorem after_read_of_refused {json : String} (h : ofJson? json = none) (history : List Step) :
    after (.read json :: history) = after history := by
  show (ofJson? json).getD (after history) = after history
  rw [h]
  rfl

theorem asked_read_of_refused {json : String} (h : ofJson? json = none) (history : List Step) :
    asked (.read json :: history) = asked history := by
  have hkeeps : ¬ (Step.read json).MakesAnew := by simp [Step.MakesAnew, h]
  have hask : Step.read json ≠ .ask := by simp
  exact asked_cons_of_ne hkeeps hask history

/-- **Runs.** Every history goes by exactly one text, and the statement is the parse of this
    text as an effect without a source. A copy goes by the same text. Rewrapping puts this
    text in the place of the present one and keeps the turns. The turns are those of the
    latest step that set any, which only assigning them, the default value, a new value and
    accepted JSON do. Refused JSON changes neither the text nor the turns nor the text that
    the statement goes by. -/
theorem runs_go_by_one_text (history : List Step) :
    ∃ text, GoesBy history text ∧ (∀ other, GoesBy history other → other = text) ∧
      (after history).statement = .effect text ∧ (after history).statement.source = none ∧
      GoesBy (.clone :: history) text ∧
      (after (.rewrap :: history)).text = text ∧
      (after (.rewrap :: history)).turnsLeft = (after history).turnsLeft ∧
      (after history).turnsLeft = (history.findSome? Step.turns?).getD 0 ∧
      ∀ json, ofJson? json = none →
        (after (.read json :: history)).text = (after history).text ∧
        (after (.read json :: history)).turnsLeft = (after history).turnsLeft ∧
        GoesBy (.read json :: history) text := by
  have hstatement : (after history).statement =
      .effect ((asked history).getD (after history).text) := statement_after history
  refine ⟨_, goesBy_iff.mpr rfl, fun other => goesBy_iff.mp, hstatement, ?source,
    goesBy_iff.mpr rfl, ?rewrapped, rfl, turnsLeft_after history, ?refused⟩
  case source =>
    rw [hstatement, Statement.effect, Statement.parse_eq]
  case rewrapped =>
    show (after history).statement.text = _
    rw [hstatement, Statement.effect, Statement.parse_eq]
  case refused =>
    intro json hrefused
    rw [goesBy_iff, after_read_of_refused hrefused, asked_read_of_refused hrefused]
    exact ⟨rfl, rfl, rfl⟩

/-- A text assigned after the first asking, and then JSON that is a number: the statement
    goes by the old text, and rewrapping brings it back. -/
theorem runs_go_by_one_text_assigned :
    ofJson? "7" = none ∧
    GoesBy [.read "7", .setText "[+9 Gold]", .ask, .new (.effect "[+2 Food]") ⟨5, by decide⟩]
      "[+2 Food]" ∧
    (after [.setText "[+9 Gold]", .ask,
      .new (.effect "[+2 Food]") ⟨5, by decide⟩]).statement = .effect "[+2 Food]" ∧
    (after [.rewrap, .setText "[+9 Gold]", .ask,
      .new (.effect "[+2 Food]") ⟨5, by decide⟩]).text = "[+2 Food]" := by
  have hrefused : ofJson? "7" = none := by decide
  obtain ⟨text, -, honly, hstatement, -, -, hrewrapped, -, -, hread⟩ :=
    runs_go_by_one_text [.setText "[+9 Gold]", .ask, .new (.effect "[+2 Food]") ⟨5, by decide⟩]
  have hunasked : IsUnasked [.new (.effect "[+2 Food]") ⟨5, by decide⟩] :=
    isUnasked_cons_iff.mpr (.inl trivial)
  have hfirst : GoesBy ([.setText "[+9 Gold]"] ++ .ask ::
      [.new (.effect "[+2 Food]") ⟨5, by decide⟩]) (Statement.effect "[+2 Food]").text :=
    .asked (by simp [Step.MakesAnew]) hunasked
  have htext : (Statement.effect "[+2 Food]").text = "[+2 Food]" := by
    rw [Statement.effect, Statement.parse_eq]
  rw [htext] at hfirst
  obtain rfl := honly _ hfirst
  obtain ⟨-, -, hgoesBy⟩ := hread "7" hrefused
  exact ⟨hrefused, hgoesBy, hstatement, hrewrapped⟩

end EffectText.Temporary
