import EffectText.Proofs.Text.Spacing
import Mathlib.Data.List.TakeWhile

/-! # Trimmed and tidy texts

    Trimming takes the blanks away from both ends of a text and touches nothing else.
    Tidying goes on and leaves one space of every other run of blanks.

    * **Trimmed**: no blank stands at either end. Every trimmed text is so
      (`isTrimmed_trim`), and trimming leaves nothing exactly of a blank text
      (`trim_eq_nil_iff`).
    * **Tidy**: trimmed and single-spaced. Tidying makes every text so (`isTidy_tidy`).
-/

namespace EffectText.Text

/-! ## What trimming takes away -/

theorem trimEnd_append_blanks (s : List Char) :
    ∃ blanks : List Char, (∀ c ∈ blanks, isBlank c = true) ∧ s = trimEnd s ++ blanks := by
  induction s with
  | nil => exact ⟨[], by simp, rfl⟩
  | cons c rest ih =>
    obtain ⟨blanks, hblank, hrest⟩ := ih
    unfold trimEnd
    split
    · next hnil =>
      rw [hnil, List.nil_append] at hrest
      subst hrest
      split
      · next hc => exact ⟨c :: rest, List.forall_mem_cons.mpr ⟨hc, hblank⟩, rfl⟩
      · exact ⟨rest, hblank, rfl⟩
    · exact ⟨blanks, hblank, congrArg (c :: ·) hrest⟩

/-- A text is what trimming leaves of it, with blanks on either side. -/
theorem blanks_append_trim_append_blanks (s : List Char) :
    ∃ left right : List Char, (∀ c ∈ left, isBlank c = true) ∧
      (∀ c ∈ right, isBlank c = true) ∧ s = left ++ (trim s ++ right) := by
  obtain ⟨right, hright, heq⟩ := trimEnd_append_blanks (trimStart s)
  have hsplit : s = s.takeWhile isBlank ++ trimStart s := List.takeWhile_append_dropWhile.symm
  have hleft : ∀ c ∈ s.takeWhile isBlank, isBlank c = true :=
    fun c hc => List.mem_takeWhile_imp hc
  rw [heq] at hsplit
  exact ⟨s.takeWhile isBlank, right, hleft, hright, hsplit⟩

theorem mem_of_mem_trim {s : List Char} {c : Char} (h : c ∈ trim s) : c ∈ s := by
  obtain ⟨left, right, -, -, heq⟩ := blanks_append_trim_append_blanks s
  rw [heq]
  exact List.mem_append_right left (List.mem_append_left right h)

theorem trimEnd_eq_nil_iff (s : List Char) : trimEnd s = [] ↔ allBlank s = true := by
  unfold allBlank
  induction s with
  | nil => simp [trimEnd]
  | cons c rest ih =>
    rw [List.all_cons, Bool.and_eq_true, ← ih, trimEnd]
    split
    · next hrest => simp [hrest]
    · next hrest =>
      have hne : trimEnd rest ≠ [] := fun hnil => hrest hnil
      simp [hne]

/-- A text is blank if trimming leaves nothing of it. -/
theorem trim_eq_nil_iff (s : List Char) : trim s = [] ↔ allBlank s = true := by
  unfold trim
  rw [trimEnd_eq_nil_iff]
  unfold trimStart allBlank
  induction s with
  | nil => rfl
  | cons c rest ih =>
    rw [List.dropWhile_cons, List.all_cons]
    by_cases hc : isBlank c = true
    · rw [if_pos hc, ih, hc, Bool.true_and]
    · rw [if_neg hc, List.all_cons]

/-! ## Trimmed texts -/

/-- **Trimmed**: no blank at either end. -/
structure IsTrimmed (s : List Char) : Prop where
  first : ∀ c ∈ s.head?, isBlank c = false
  last : ∀ c ∈ s.getLast?, isBlank c = false

theorem not_blank_of_mem_head?_trimStart {s : List Char} :
    ∀ c ∈ (trimStart s).head?, isBlank c = false := by
  intro c hc
  have hnot := List.head?_dropWhile_not isBlank s
  unfold trimStart at hc
  rw [Option.mem_def.mp hc] at hnot
  exact hnot

theorem not_blank_of_mem_getLast?_trimEnd {s : List Char} :
    ∀ c ∈ (trimEnd s).getLast?, isBlank c = false := by
  induction s with
  | nil => simp [trimEnd]
  | cons c rest ih =>
    unfold trimEnd
    split
    · split
      · simp
      · next hc => simpa using hc
    · next hkept =>
      -- the first character ends the text only if nothing is kept behind it
      have hne : trimEnd rest ≠ [] := fun hnil => hkept hnil
      rw [List.getLast?_cons_of_ne_nil hne]
      exact ih

/-- Trimming makes a text trimmed. -/
theorem isTrimmed_trim (s : List Char) : IsTrimmed (trim s) where
  first := by
    intro c hc
    obtain ⟨blanks, -, heq⟩ := trimEnd_append_blanks (trimStart s)
    have hne : trim s ≠ [] := by
      intro hnil
      simp [hnil] at hc
    have hhead : (trimStart s).head? = (trim s).head? := by
      rw [heq]
      exact List.head?_append_of_ne_nil (trim s) hne
    rw [← hhead] at hc
    exact not_blank_of_mem_head?_trimStart c hc
  last := not_blank_of_mem_getLast?_trimEnd

/-! ## Tidy texts -/

/-- **Tidy**: single spacing, and no blank at either end. -/
structure IsTidy (s : List Char) : Prop extends IsTrimmed s where
  spaced : SingleSpaced s

/-- Texts that meet with a character that is no blank stay single-spaced. -/
theorem SingleSpaced.append {s t : List Char} (hs : SingleSpaced s) (ht : SingleSpaced t)
    (hseam : ∀ c ∈ s.getLast?, isBlank c = false) : SingleSpaced (s ++ t) where
  space := by
    intro c hc
    rcases List.mem_append.mp hc with hleft | hright
    · exact hs.space c hleft
    · exact ht.space c hright
  isolated := hs.isolated.append ht.isolated fun c hc _ _ => .inl (hseam c hc)

theorem IsWord.isTidy {word : List Char} (h : IsWord word) : IsTidy word where
  first := fun c hc => h.not_blank c (List.mem_of_mem_head? hc)
  last := fun c hc => h.not_blank c (List.mem_of_mem_getLast? hc)
  spaced := by
    constructor
    · intro c hc hblank
      rw [h.not_blank c hc] at hblank
      exact absurd hblank (by decide)
    · refine List.Pairwise.isChain ?_
      exact List.pairwise_of_forall_mem_list fun c hc _ _ => .inl (h.not_blank c hc)

/-- A tidy text in front of another one, with a space in between. -/
theorem IsTidy.append_space {s t : List Char} (hs : IsTidy s) (ht : IsTidy t) (hsne : s ≠ [])
    (htne : t ≠ []) : IsTidy (s ++ ' ' :: t) where
  first := by
    rw [List.head?_append_of_ne_nil s hsne]
    exact hs.first
  last := by
    rw [List.getLast?_append_of_ne_nil s (List.cons_ne_nil ' ' t),
      List.getLast?_cons_of_ne_nil htne]
    exact ht.last
  spaced := by
    have hspace : SingleSpaced (' ' :: t) :=
      singleSpaced_cons.mpr ⟨fun _ => rfl, fun c hc => .inr (ht.first c hc), ht.spaced⟩
    exact hs.spaced.append hspace hs.last

theorem unwords_ne_nil {word : List Char} (h : IsWord word) (others : List (List Char)) :
    unwords (word :: others) ≠ [] := by
  cases others with
  | nil => exact h.ne_nil
  | cons next rest =>
    rw [unwords_cons_cons]
    simp [h.ne_nil]

/-- Joined words are tidy. -/
theorem isTidy_unwords {list : List (List Char)} (h : ∀ word ∈ list, IsWord word) :
    IsTidy (unwords list) := by
  induction list with
  | nil => exact ⟨⟨by simp [unwords], by simp [unwords]⟩, singleSpaced_nil⟩
  | cons word others ih =>
    obtain ⟨hword, hothers⟩ := List.forall_mem_cons.mp h
    cases others with
    | nil => exact hword.isTidy
    | cons next rest =>
      have hne : unwords (next :: rest) ≠ [] :=
        unwords_ne_nil (hothers next List.mem_cons_self) rest
      rw [unwords_cons_cons]
      exact hword.isTidy.append_space (ih hothers) hword.ne_nil hne

/-- Tidying makes a text tidy. -/
theorem isTidy_tidy (s : List Char) : IsTidy (tidy s) :=
  isTidy_unwords fun _ hword => isWord_of_mem_words hword

end EffectText.Text
