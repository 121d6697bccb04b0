import EffectText.Text.Blank
import Mathlib.Data.List.Chain

/-! # Words and spacing

    Cutting a text at its blanks is the library's `splitOnP`, so its lemmas apply.

    * **Words** of joined words are the words that were joined (`words_unwords`), so
      tidying twice is tidying once (`tidy_tidy`).
    * Tidying touches blanks only (`filter_tidy`).
    * **Single spacing**: a text whose blanks are isolated spaces is tidy as soon as no
      blank stands at either end (`SingleSpaced.tidy_eq_self`).
-/

namespace EffectText.Text

/-! ## Pieces -/

theorem pieces_ne_nil (s : List Char) : pieces s ≠ [] := by
  unfold pieces
  split
  · simp
  · split
    · simp
    · split <;> simp

theorem pieces_eq_splitOnP (s : List Char) : pieces s = s.splitOnP isBlank := by
  induction s with
  | nil => rfl
  | cons c rest ih =>
    rw [List.splitOnP_cons_eq_if_modifyHead, ← ih]
    by_cases hc : isBlank c
    · simp [pieces, hc]
    · obtain ⟨first, others, heq⟩ := List.exists_cons_of_ne_nil (pieces_ne_nil rest)
      simp [pieces, hc, heq]

theorem pieces_append_blank {c : Char} (hc : isBlank c = true) (before after : List Char) :
    pieces (before ++ c :: after) = pieces before ++ pieces after := by
  simp only [pieces_eq_splitOnP]
  exact List.splitOnP_append_cons before after hc

theorem pieces_cons_of_blank {c : Char} (hc : isBlank c = true) (s : List Char) :
    pieces (c :: s) = [] :: pieces s := by
  simp [pieces, hc]

theorem pieces_cons_of_not_blank {c : Char} (hc : isBlank c = false) (s : List Char) :
    pieces (c :: s) = (pieces s).modifyHead (c :: ·) := by
  simp [pieces_eq_splitOnP, List.splitOnP_cons_eq_if_modifyHead, hc]

/-- No blank stands in a piece. -/
theorem not_blank_of_mem_pieces {s piece : List Char} (h : piece ∈ pieces s) :
    ∀ c ∈ piece, isBlank c = false := by
  induction s generalizing piece with
  | nil => simp_all [pieces]
  | cons c rest ih =>
    by_cases hc : isBlank c = true
    · rw [pieces_cons_of_blank hc] at h
      rcases List.mem_cons.mp h with rfl | hrest
      · simp
      · exact ih hrest
    · rw [Bool.not_eq_true] at hc
      rw [pieces_cons_of_not_blank hc] at h
      obtain ⟨first, others, heq⟩ := List.exists_cons_of_ne_nil (pieces_ne_nil rest)
      rw [heq, List.modifyHead_cons] at h
      rcases List.mem_cons.mp h with rfl | hrest
      · intro x hx
        rcases List.mem_cons.mp hx with rfl | hfirst
        · exact hc
        · exact ih (heq ▸ List.mem_cons_self) x hfirst
      · exact ih (heq ▸ List.mem_cons_of_mem _ hrest)

/-! ## Words -/

/-- **Word**: at least one character, and no blank. -/
structure IsWord (word : List Char) : Prop where
  ne_nil : word ≠ []
  not_blank : ∀ c ∈ word, isBlank c = false

theorem isWord_of_mem_words {s word : List Char} (h : word ∈ words s) : IsWord word := by
  obtain ⟨hpiece, hne⟩ := List.mem_filter.mp h
  exact ⟨by simpa using hne, not_blank_of_mem_pieces hpiece⟩

/-- A blank separates the words in front of it from those behind it. -/
theorem words_append_blank {c : Char} (hc : isBlank c = true) (before after : List Char) :
    words (before ++ c :: after) = words before ++ words after := by
  simp [words, pieces_append_blank hc]

theorem IsWord.words_eq {word : List Char} (h : IsWord word) : words word = [word] := by
  unfold words
  rw [pieces_eq_splitOnP, List.splitOnP_eq_singleton h.not_blank]
  simp [h.ne_nil]

theorem unwords_cons_cons (word next : List Char) (rest : List (List Char)) :
    unwords (word :: next :: rest) = word ++ ' ' :: unwords (next :: rest) := rfl

/-- The words of joined words are the words that were joined. -/
theorem words_unwords {list : List (List Char)} (h : ∀ word ∈ list, IsWord word) :
    words (unwords list) = list := by
  induction list with
  | nil => rfl
  | cons word others ih =>
    have hword : IsWord word := h word List.mem_cons_self
    have hothers := ih fun w hw => h w (List.mem_cons_of_mem _ hw)
    cases others with
    | nil => exact hword.words_eq
    | cons next rest =>
      rw [unwords_cons_cons, words_append_blank (by decide), hword.words_eq, hothers]
      rfl

theorem words_tidy (s : List Char) : words (tidy s) = words s :=
  words_unwords fun _ hmem => isWord_of_mem_words hmem

/-- Tidying twice is tidying once. -/
theorem tidy_tidy (s : List Char) : tidy (tidy s) = tidy s := by
  show unwords (words (tidy s)) = unwords (words s)
  rw [words_tidy]

/-! ## What tidying keeps -/

section filter

variable {keep : Char → Bool} (hkeep : ∀ c, isBlank c = true → keep c = false)
include hkeep

theorem filter_flatten_pieces (s : List Char) :
    (pieces s).flatten.filter keep = s.filter keep := by
  induction s with
  | nil => rfl
  | cons c rest ih =>
    by_cases hc : isBlank c = true
    · simp [pieces_cons_of_blank hc, hkeep c hc, ih]
    · rw [Bool.not_eq_true] at hc
      obtain ⟨first, others, heq⟩ := List.exists_cons_of_ne_nil (pieces_ne_nil rest)
      rw [heq] at ih
      rw [pieces_cons_of_not_blank hc, heq, List.modifyHead_cons, List.flatten_cons,
        List.cons_append, List.filter_cons, List.filter_cons, ← ih, List.flatten_cons]

theorem filter_unwords (list : List (List Char)) :
    (unwords list).filter keep = list.flatten.filter keep := by
  induction list with
  | nil => rfl
  | cons word others ih =>
    cases others with
    | nil => simp [unwords]
    | cons next rest =>
      have hspace : keep ' ' = false := hkeep ' ' (by decide)
      rw [unwords_cons_cons, List.flatten_cons, List.filter_append, List.filter_append, ← ih,
        List.filter_cons, hspace]
      rfl

/-- Tidying keeps every character that is no blank, in order. -/
theorem filter_tidy (s : List Char) : (tidy s).filter keep = s.filter keep := by
  unfold tidy words
  rw [filter_unwords hkeep, List.flatten_filter_not_isEmpty, filter_flatten_pieces hkeep]

end filter

/-! ## Single spacing -/

/-- **Single spacing**: every blank is a space, and no two blanks stand side by side.
    Blanks at either end are allowed. -/
structure SingleSpaced (s : List Char) : Prop where
  space : ∀ c ∈ s, isBlank c = true → c = ' '
  isolated : s.IsChain fun c c' => isBlank c = false ∨ isBlank c' = false

theorem singleSpaced_iff {s : List Char} :
    SingleSpaced s ↔ (s.all fun c => !isBlank c || c == ' ') = true ∧
      s.IsChain fun c c' => isBlank c = false ∨ isBlank c' = false := by
  have hspace : (s.all fun c => !isBlank c || c == ' ') = true ↔
      ∀ c ∈ s, isBlank c = true → c = ' ' := by
    rw [List.all_eq_true]
    refine forall₂_congr fun c _ => ?_
    cases isBlank c <;> simp
  rw [hspace]
  exact ⟨fun h => ⟨h.space, h.isolated⟩, fun h => ⟨h.1, h.2⟩⟩

instance (s : List Char) : Decidable (SingleSpaced s) := decidable_of_iff _ singleSpaced_iff.symm

theorem singleSpaced_nil : SingleSpaced [] := ⟨by simp, List.isChain_nil⟩

theorem singleSpaced_cons {c : Char} {s : List Char} :
    SingleSpaced (c :: s) ↔
      (isBlank c = true → c = ' ') ∧
      (∀ c' ∈ s.head?, isBlank c = false ∨ isBlank c' = false) ∧ SingleSpaced s := by
  constructor
  · rintro ⟨space, isolated⟩
    obtain ⟨hhead, htail⟩ := List.isChain_cons.mp isolated
    exact ⟨space c List.mem_cons_self, hhead,
      fun x hx => space x (List.mem_cons_of_mem _ hx), htail⟩
  · rintro ⟨hc, hhead, space, isolated⟩
    refine ⟨?_, List.isChain_cons.mpr ⟨hhead, isolated⟩⟩
    intro x hx
    rcases List.mem_cons.mp hx with rfl | hs
    · exact hc
    · exact space x hs

/-- A character that is no blank keeps the two sides apart. -/
theorem singleSpaced_append_cons {c : Char} (hc : isBlank c = false) {before after : List Char} :
    SingleSpaced (before ++ c :: after) ↔ SingleSpaced before ∧ SingleSpaced after := by
  induction before with
  | nil => simp [singleSpaced_cons, hc, singleSpaced_nil]
  | cons b rest ih =>
    have hhead : (∀ x ∈ (rest ++ c :: after).head?, isBlank b = false ∨ isBlank x = false) ↔
        ∀ x ∈ rest.head?, isBlank b = false ∨ isBlank x = false := by
      cases rest with
      | nil => simp [hc]
      | cons next rest => rfl
    rw [List.cons_append, singleSpaced_cons, singleSpaced_cons, ih, hhead, and_assoc, and_assoc]

/-- Joining the pieces with spaces gives the text back if every blank is a space. -/
theorem unwords_pieces {s : List Char} (h : ∀ c ∈ s, isBlank c = true → c = ' ') :
    unwords (pieces s) = s := by
  induction s with
  | nil => rfl
  | cons c rest ih =>
    have hrest := ih fun x hx => h x (List.mem_cons_of_mem _ hx)
    obtain ⟨first, others, heq⟩ := List.exists_cons_of_ne_nil (pieces_ne_nil rest)
    by_cases hc : isBlank c = true
    · rw [pieces_cons_of_blank hc, heq, unwords_cons_cons, ← heq, hrest,
        h c List.mem_cons_self hc]
      rfl
    · rw [Bool.not_eq_true] at hc
      rw [pieces_cons_of_not_blank hc, heq, List.modifyHead_cons]
      rw [heq] at hrest
      cases others with
      | nil => simpa [unwords] using hrest
      | cons next others => simpa [unwords_cons_cons] using hrest

/-- No piece is empty if blanks are isolated and none stands at either end. -/
theorem nil_not_mem_pieces {s : List Char} (hne : s ≠ [])
    (hisolated : s.IsChain fun c c' => isBlank c = false ∨ isBlank c' = false)
    (hfirst : ∀ c ∈ s.head?, isBlank c = false) (hlast : ∀ c ∈ s.getLast?, isBlank c = false) :
    [] ∉ pieces s := by
  match s with
  | [] => exact absurd rfl hne
  | [c] =>
    have hc : isBlank c = false := hfirst c rfl
    rw [pieces_cons_of_not_blank hc]
    simp [pieces]
  | c :: next :: rest =>
    have hc : isBlank c = false := hfirst c rfl
    have hchain := (List.isChain_cons_cons.mp hisolated).2
    rw [List.getLast?_cons_cons] at hlast
    rw [pieces_cons_of_not_blank hc]
    by_cases hnext : isBlank next = true
    · -- the blank ends the first piece, and the rest starts after it
      have hrest : rest ≠ [] := by
        rintro rfl
        simp [hlast next rfl] at hnext
      have hstart := (List.isChain_cons.mp hchain).1
      have ih := nil_not_mem_pieces hrest (List.isChain_cons.mp hchain).2
        (fun x hx => (hstart x hx).resolve_left (by simp [hnext]))
        (by rwa [List.getLast?_cons_of_ne_nil hrest] at hlast)
      simp [pieces_cons_of_blank hnext, ih]
    · rw [Bool.not_eq_true] at hnext
      have ih := nil_not_mem_pieces (by simp) hchain (by simpa using hnext) hlast
      obtain ⟨first, others, heq⟩ := List.exists_cons_of_ne_nil (pieces_ne_nil (next :: rest))
      rw [heq] at ih ⊢
      simp_all
termination_by s.length

/-- A single-spaced text without blanks at its ends is tidy. -/
theorem SingleSpaced.tidy_eq_self {s : List Char} (h : SingleSpaced s)
    (hfirst : ∀ c ∈ s.head?, isBlank c = false) (hlast : ∀ c ∈ s.getLast?, isBlank c = false) :
    tidy s = s := by
  by_cases hne : s = []
  · subst hne
    rfl
  · have hnil := nil_not_mem_pieces hne h.isolated hfirst hlast
    have hwords : words s = pieces s := by
      unfold words
      rw [List.filter_eq_self]
      intro piece hpiece
      have : piece ≠ [] := fun heq => hnil (heq ▸ hpiece)
      simpa using this
    rw [tidy, hwords, unwords_pieces h.space]

end EffectText.Text
