import EffectText.Text.Reader
import Mathlib.Data.List.TakeWhile

/-! # What readers succeed on

    For each reader, the texts on which it succeeds, with the value that it gives and the
    rest that it leaves. Stated as equivalences, so that they tell both what a reader
    accepts and that it accepts it.
-/

namespace EffectText.Reader

variable {α β : Type} {s rest : List Char}

/-! ## Sequence and choice -/

theorem pure_eq_some_iff {a b : α} :
    (pure a : Reader α) s = some (b, rest) ↔ b = a ∧ s = rest := by
  show some (a, s) = some (b, rest) ↔ _
  rw [Option.some.injEq, Prod.mk.injEq, eq_comm (a := a)]

theorem failure_apply (s : List Char) : (failure : Reader α) s = none := rfl

/-- In a sequence, the second reader goes on where the first one stopped. -/
theorem bind_apply (p : Reader α) (f : α → Reader β) (s : List Char) :
    (p >>= f) s = (p s).bind fun (a, mid) => f a mid := rfl

theorem bind_eq_some_iff {p : Reader α} {f : α → Reader β} {b : β} :
    (p >>= f) s = some (b, rest) ↔
      ∃ a mid, p s = some (a, mid) ∧ f a mid = some (b, rest) := by
  rw [bind_apply, Option.bind_eq_some_iff]
  constructor
  · rintro ⟨⟨a, mid⟩, hfirst, hsecond⟩
    exact ⟨a, mid, hfirst, hsecond⟩
  · rintro ⟨a, mid, hfirst, hsecond⟩
    exact ⟨(a, mid), hfirst, hsecond⟩

theorem bind_of_eq_none {p : Reader α} {f : α → Reader β} (h : p s = none) :
    (p >>= f) s = none := by
  rw [bind_apply, h]
  rfl

theorem bind_of_eq_some {p : Reader α} {f : α → Reader β} {a : α} (h : p s = some (a, rest)) :
    (p >>= f) s = f a rest := by
  rw [bind_apply, h]
  rfl

theorem orElse_apply (p q : Reader α) (s : List Char) :
    (p <|> q) s = (p s).orElse fun _ => q s := by
  show (p s <|> q s) = _
  cases p s <;> rfl

theorem orElse_of_eq_none {p q : Reader α} (h : p s = none) : (p <|> q) s = q s := by
  rw [orElse_apply, h]
  rfl

theorem orElse_of_eq_some {p q : Reader α} {a : α} (h : p s = some (a, rest)) :
    (p <|> q) s = some (a, rest) := by
  rw [orElse_apply, h]
  rfl

theorem optional_of_eq_some {p : Reader α} {a : α} (h : p s = some (a, rest)) :
    optional p s = some (some a, rest) := by
  unfold optional
  rw [orElse_apply]
  show ((p s).bind _).orElse _ = _
  rw [h]
  rfl

theorem optional_of_eq_none {p : Reader α} (h : p s = none) :
    optional p s = some (none, s) := by
  unfold optional
  rw [orElse_apply]
  show ((p s).bind _).orElse _ = _
  rw [h]
  rfl

/-- An optional part is read if it can be, and nothing is taken if it cannot. -/
theorem optional_eq_some_iff {p : Reader α} {part : Option α} :
    optional p s = some (part, rest) ↔
      (∃ a, part = some a ∧ p s = some (a, rest)) ∨ part = none ∧ p s = none ∧ s = rest := by
  cases hread : p s with
  | none =>
    rw [optional_of_eq_none hread, Option.some.injEq, Prod.mk.injEq]
    constructor
    · rintro ⟨rfl, rfl⟩
      exact .inr ⟨rfl, rfl, rfl⟩
    · rintro (⟨a, -, hsome⟩ | ⟨rfl, -, rfl⟩)
      · exact absurd hsome (by simp)
      · exact ⟨rfl, rfl⟩
  | some read =>
    obtain ⟨a, mid⟩ := read
    rw [optional_of_eq_some hread, Option.some.injEq, Prod.mk.injEq]
    constructor
    · rintro ⟨rfl, rfl⟩
      exact .inl ⟨a, rfl, rfl⟩
    · rintro (⟨b, rfl, hsome⟩ | ⟨-, hnone, -⟩)
      · obtain ⟨rfl, rfl⟩ := Prod.mk.inj (Option.some.inj hsome)
        exact ⟨rfl, rfl⟩
      · exact absurd hnone (by simp)

/-! ## Single characters and fixed texts -/

/-- A character of a class stands in no list that has none of the class. -/
theorem not_mem_of_all_not {p : Char → Bool} {others : List Char}
    (h : others.all (!p ·) = true) {c : Char} (hc : p c = true) : c ∉ others := by
  intro hin
  have hnot := List.all_eq_true.mp h c hin
  rw [hc] at hnot
  exact absurd hnot (by decide)

theorem satisfy_eq_some_iff {p : Char → Bool} {c : Char} :
    satisfy p s = some (c, rest) ↔ p c = true ∧ s = c :: rest := by
  cases s with
  | nil => simp [satisfy]
  | cons b tail =>
    by_cases hb : p b = true
    · simp only [satisfy, hb, if_true, Option.some.injEq, Prod.mk.injEq, List.cons.injEq]
      constructor
      · rintro ⟨rfl, rfl⟩
        exact ⟨hb, rfl, rfl⟩
      · rintro ⟨-, rfl, rfl⟩
        exact ⟨rfl, rfl⟩
    · simp only [satisfy, hb, if_false, reduceCtorEq, List.cons.injEq, false_iff]
      rintro ⟨hc, rfl, -⟩
      exact hb hc

theorem satisfy_eq_none_iff {p : Char → Bool} :
    satisfy p s = none ↔ ∀ c ∈ s.head?, p c = false := by
  cases s with
  | nil => simp [satisfy]
  | cons c tail => cases hc : p c <;> simp [satisfy, hc]

theorem char_eq_some_iff {c : Char} {u : Unit} :
    char c s = some (u, rest) ↔ s = c :: rest := by
  unfold char
  rw [bind_eq_some_iff]
  simp only [satisfy_eq_some_iff, pure_eq_some_iff]
  constructor
  · rintro ⟨b, mid, ⟨hb, rfl⟩, -, rfl⟩
    rw [beq_iff_eq.mp hb]
  · rintro rfl
    exact ⟨c, rest, ⟨beq_self_eq_true c, rfl⟩, trivial, rfl⟩

theorem char_eq_none_iff {c : Char} : char c s = none ↔ s.head? ≠ some c := by
  rw [Option.eq_none_iff_forall_ne_some, ne_eq, List.head?_eq_some_iff]
  constructor
  · rintro hnone ⟨rest, rfl⟩
    exact hnone ((), rest) (char_eq_some_iff.mpr rfl)
  · rintro hhead ⟨u, rest⟩ hread
    exact hhead ⟨rest, char_eq_some_iff.mp hread⟩

theorem exactly_eq_some_iff {t : List Char} {u : Unit} :
    exactly t s = some (u, rest) ↔ s = t ++ rest := by
  induction t generalizing s with
  | nil =>
    unfold exactly
    rw [pure_eq_some_iff]
    simp
  | cons c t ih =>
    unfold exactly
    rw [bind_eq_some_iff]
    simp only [char_eq_some_iff, ih]
    constructor
    · rintro ⟨-, mid, rfl, rfl⟩
      rfl
    · rintro rfl
      exact ⟨(), t ++ rest, rfl, rfl⟩

theorem text_eq_some_iff {t : String} {u : Unit} :
    text t s = some (u, rest) ↔ s = t.toList ++ rest :=
  exactly_eq_some_iff

/-! ## Runs -/

/-- A run ends in front of the first character that does not belong to it. -/
theorem takeWhile_eq_and_dropWhile_eq_iff {p : Char → Bool} {run : List Char} :
    s.takeWhile p = run ∧ s.dropWhile p = rest ↔
      s = run ++ rest ∧ (∀ c ∈ run, p c = true) ∧ ∀ c ∈ rest.head?, p c = false := by
  constructor
  · rintro ⟨rfl, rfl⟩
    refine ⟨(List.takeWhile_append_dropWhile ..).symm, fun c => List.mem_takeWhile_imp, ?_⟩
    intro c hc
    have hnot := List.head?_dropWhile_not p s
    rw [Option.mem_def.mp hc] at hnot
    simpa using hnot
  · rintro ⟨rfl, hrun, hrest⟩
    have hstop : rest.takeWhile p = [] ∧ rest.dropWhile p = rest := by
      cases rest with
      | nil => exact ⟨rfl, rfl⟩
      | cons c tail =>
        have hc : p c = false := hrest c rfl
        simp [hc]
    rw [List.takeWhile_append_of_pos hrun, List.dropWhile_append_of_pos hrun, hstop.1, hstop.2,
      List.append_nil]
    exact ⟨rfl, rfl⟩

theorem span_eq_some_iff {p : Char → Bool} {run : List Char} :
    span p s = some (run, rest) ↔
      s = run ++ rest ∧ (∀ c ∈ run, p c = true) ∧ ∀ c ∈ rest.head?, p c = false := by
  unfold span
  rw [Option.some.injEq, Prod.mk.injEq, takeWhile_eq_and_dropWhile_eq_iff]

theorem spanOne_eq_some_iff {p : Char → Bool} {run : List Char} :
    spanOne p s = some (run, rest) ↔
      run ≠ [] ∧ s = run ++ rest ∧ (∀ c ∈ run, p c = true) ∧ ∀ c ∈ rest.head?, p c = false := by
  unfold spanOne
  rw [bind_eq_some_iff]
  constructor
  · rintro ⟨found, mid, hspan, hread⟩
    cases found with
    | nil => exact absurd hread (by simp [failure_apply])
    | cons c found =>
      obtain ⟨rfl, rfl⟩ := pure_eq_some_iff.mp hread
      exact ⟨List.cons_ne_nil c found, span_eq_some_iff.mp hspan⟩
  · rintro ⟨hne, hrun⟩
    refine ⟨run, rest, span_eq_some_iff.mpr hrun, ?_⟩
    rw [if_neg (by simpa using hne), pure_eq_some_iff]
    exact ⟨rfl, rfl⟩

/-! ## What readers take -/

/-- **Takes only**: whatever a reader takes from the front of a text are characters that
    satisfy `P`. -/
def TakesOnly (P : Char → Prop) (p : Reader α) : Prop :=
  ∀ s a rest, p s = some (a, rest) → ∃ taken, s = taken ++ rest ∧ ∀ c ∈ taken, P c

namespace TakesOnly

variable {P : Char → Prop} {p q : Reader α}

theorem pure (a : α) : TakesOnly P (pure a : Reader α) := by
  intro s b rest h
  obtain ⟨-, rfl⟩ := pure_eq_some_iff.mp h
  exact ⟨[], rfl, by simp⟩

theorem failure : TakesOnly P (failure : Reader α) := by
  intro s a rest h
  rw [failure_apply] at h
  exact absurd h (by simp)

/-- What a sequence takes is what its readers take, one after the other. -/
theorem bind {f : α → Reader β} (hp : TakesOnly P p) (hf : ∀ a, TakesOnly P (f a)) :
    TakesOnly P (p >>= f) := by
  intro s b rest h
  obtain ⟨a, mid, hfirst, hsecond⟩ := bind_eq_some_iff.mp h
  obtain ⟨front, rfl, hfront⟩ := hp s a mid hfirst
  obtain ⟨back, rfl, hback⟩ := hf a mid b rest hsecond
  exact ⟨front ++ back, (List.append_assoc ..).symm, List.forall_mem_append.mpr ⟨hfront, hback⟩⟩

theorem orElse (hp : TakesOnly P p) (hq : TakesOnly P q) : TakesOnly P (p <|> q) := by
  intro s a rest h
  rw [orElse_apply] at h
  cases hfirst : p s with
  | none =>
    rw [hfirst] at h
    exact hq s a rest h
  | some read =>
    rw [hfirst] at h
    exact hp s a rest (hfirst.trans h)

theorem optional (hp : TakesOnly P p) : TakesOnly P (optional p) := by
  intro s part rest h
  rcases optional_eq_some_iff.mp h with ⟨a, -, hread⟩ | ⟨-, -, rfl⟩
  · exact hp s a rest hread
  · exact ⟨[], rfl, by simp⟩

theorem satisfy {test : Char → Bool} (h : ∀ c, test c = true → P c) :
    TakesOnly P (satisfy test) := by
  intro s c rest hread
  obtain ⟨hc, rfl⟩ := satisfy_eq_some_iff.mp hread
  exact ⟨[c], rfl, by simpa using h c hc⟩

theorem char {c : Char} (h : P c) : TakesOnly P (char c) := by
  intro s u rest hread
  obtain rfl := char_eq_some_iff.mp hread
  exact ⟨[c], rfl, by simpa using h⟩

theorem span {test : Char → Bool} (h : ∀ c, test c = true → P c) : TakesOnly P (span test) := by
  intro s run rest hread
  obtain ⟨rfl, hrun, -⟩ := span_eq_some_iff.mp hread
  exact ⟨run, rfl, fun c hc => h c (hrun c hc)⟩

theorem spanOne {test : Char → Bool} (h : ∀ c, test c = true → P c) :
    TakesOnly P (spanOne test) := by
  intro s run rest hread
  obtain ⟨-, rfl, hrun, -⟩ := spanOne_eq_some_iff.mp hread
  exact ⟨run, rfl, fun c hc => h c (hrun c hc)⟩

end TakesOnly

/-! ## What readers give -/

/-- **Gives**: whatever a reader reads, its value satisfies `Q`. -/
def Gives (Q : α → Prop) (p : Reader α) : Prop := ∀ s a rest, p s = some (a, rest) → Q a

namespace Gives

variable {Q : α → Prop} {R : β → Prop} {p : Reader α}

theorem pure {a : α} (h : Q a) : Gives Q (pure a : Reader α) := by
  intro s b rest hread
  obtain ⟨rfl, -⟩ := pure_eq_some_iff.mp hread
  exact h

theorem failure : Gives Q (failure : Reader α) := by
  intro s a rest hread
  rw [failure_apply] at hread
  exact absurd hread (by simp)

/-- The second reader of a sequence only meets values that the first one gives. -/
theorem bind {f : α → Reader β} (hp : Gives Q p) (hf : ∀ a, Q a → Gives R (f a)) :
    Gives R (p >>= f) := by
  intro s b rest hread
  obtain ⟨a, mid, hfirst, hsecond⟩ := bind_eq_some_iff.mp hread
  exact hf a (hp s a mid hfirst) mid b rest hsecond

theorem any (p : Reader α) : Gives (fun _ => True) p := fun _ _ _ _ => trivial

end Gives

/-! ## Items between commas -/

section items

variable {blank : Reader Unit} {item : Reader α} {close : Char} {bound : List Char}

/-- The last item stands in front of the closing character. -/
theorem itemsWithin_last {trailing : Bool} {a : α} {c : Char} {first behind : List Char}
    (hfirst : blank s = some ((), first)) (hitem : item first = some (a, behind))
    (hbehind : blank behind = some ((), close :: rest)) :
    itemsWithin blank item close trailing (c :: bound) s = some ([a], rest) := by
  have hclose : next (close :: rest) = some (close, rest) := rfl
  unfold itemsWithin
  rw [bind_of_eq_some hfirst, bind_of_eq_some hitem, bind_of_eq_some hbehind,
    bind_of_eq_some hclose, if_pos rfl]
  rfl

/-- Behind a comma stand more items. -/
theorem itemsWithin_comma {a : α} {others : List α} {c : Char}
    {first behind second mid : List Char} (hne : ',' ≠ close)
    (hfirst : blank s = some ((), first)) (hitem : item first = some (a, behind))
    (hbehind : blank behind = some ((), ',' :: second)) (hsecond : blank second = some ((), mid))
    (hothers : itemsWithin blank item close false bound mid = some (others, rest)) :
    itemsWithin blank item close false (c :: bound) s = some (a :: others, rest) := by
  have hcomma : next (',' :: second) = some (',', second) := rfl
  unfold itemsWithin
  rw [bind_of_eq_some hfirst, bind_of_eq_some hitem, bind_of_eq_some hbehind,
    bind_of_eq_some hcomma, if_neg hne]
  dsimp only
  rw [if_neg (by simp), bind_of_eq_some hsecond]
  have hpeek : peek mid = some (mid.head?, mid) := rfl
  rw [bind_of_eq_some hpeek, if_neg (by simp), bind_of_eq_some hothers]
  rfl

/-- Items are there if the closing character does not come at once. -/
theorem items_of_itemsWithin {trailing : Bool} {found : List α} {first : List Char}
    (hfirst : blank s = some ((), first)) (hopen : first.head? ≠ some close)
    (hitems : itemsWithin blank item close trailing first first = some (found, rest)) :
    items blank item close trailing s = some (found, rest) := by
  have hpeek : peek first = some (first.head?, first) := rfl
  unfold items
  rw [bind_of_eq_some hfirst, bind_of_eq_some hpeek, if_neg hopen]
  exact hitems

/-- All items are values that the reader of one item gives. -/
theorem Gives.itemsWithin {Q : α → Prop} (hitem : Gives Q item) (trailing : Bool)
    (bound : List Char) :
    Gives (fun found => ∀ a ∈ found, Q a) (itemsWithin blank item close trailing bound) := by
  induction bound with
  | nil => exact .failure
  | cons c bound ih =>
    have hone : ∀ a, Q a → ∀ b ∈ [a], Q b := by simp
    unfold Reader.itemsWithin
    refine .bind (.any blank) fun _ _ => .bind hitem fun a ha => .bind (.any blank) fun _ _ =>
      .bind (.any next) fun d _ => ?_
    have hmore : Gives (fun found => ∀ b ∈ found, Q b) (do
        blank
        if trailing && (← peek) = some close then
          char close
          return [a]
        return a :: (← Reader.itemsWithin blank item close trailing bound)) := by
      refine .bind (.any blank) fun _ _ => .bind (.any peek) fun _ _ => ?_
      split
      · exact .bind (.any _) fun _ _ => .pure (hone a ha)
      · exact .bind ih fun others hothers => .pure (List.forall_mem_cons.mpr ⟨ha, hothers⟩)
    dsimp only
    split
    · exact .pure (hone a ha)
    · split
      · exact .bind (.any _) fun _ _ => hmore
      · exact hmore

theorem Gives.items {Q : α → Prop} (hitem : Gives Q item) (trailing : Bool) :
    Gives (fun found => ∀ a ∈ found, Q a) (items blank item close trailing) := by
  refine .bind (.any blank) fun _ _ => .bind (.any peek) fun _ _ => ?_
  split
  · exact .bind (.any _) fun _ _ => .pure (by simp)
  · exact .bind (.any get) fun bound _ => .itemsWithin hitem trailing bound

end items

/-! ## Whole texts -/

theorem readAll_eq_some_iff {p : Reader α} {a : α} :
    readAll p s = some a ↔ p s = some (a, []) := by
  unfold readAll
  split
  · next b h => simp [h]
  · next h =>
    constructor
    · intro hnone
      exact absurd hnone (by simp)
    · intro hread
      exact absurd hread (h a)

/-- A text that is read as a whole has only characters that the reader takes. -/
theorem TakesOnly.of_readAll {P : Char → Prop} {p : Reader α} {a : α} (hp : TakesOnly P p)
    (h : readAll p s = some a) : ∀ c ∈ s, P c := by
  obtain ⟨taken, rfl, htaken⟩ := hp s a [] (readAll_eq_some_iff.mp h)
  rw [List.append_nil]
  exact htaken

theorem Gives.of_readAll {Q : α → Prop} {p : Reader α} {a : α} (hp : Gives Q p)
    (h : readAll p s = some a) : Q a :=
  hp s a [] (readAll_eq_some_iff.mp h)

end EffectText.Reader
