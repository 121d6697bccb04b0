import EffectText.Proofs.Text.Readers
import EffectText.Yield.Term

/-! # Terms as they are written

    A **written** term has at least one decimal digit in front of the point, and behind it
    if there is one. Its text is the sign, the digits, a space and the name of the yield
    (`Term.source`).

    * Reading a term succeeds on the texts of written terms, and takes nothing else
      (`Term.read_eq_some_iff`).
    * A token is a text of written terms, joined by a comma and a space each
      (`Yields.tokenTerms?_eq_some_iff`). No character of a term is a comma, so the commas
      tell where the terms are.
    * In such a text, searching for terms finds the terms it is joined from
      (`Term.all_joined`). A sign stands nowhere but in front of a term.
-/

namespace EffectText

open Text

/-! ## Names -/

namespace Yield

/-- No name is how another name starts. -/
theorem eq_of_names_start_alike {yield other : Yield}
    (h : yield.name.toList <+: other.name.toList) : yield = other := by
  revert h
  cases yield <;> cases other <;> decide

/-- At most one yield has a name that a text starts with. -/
theorem eq_of_append_name {yield other : Yield} {rest rest' : List Char}
    (h : yield.name.toList ++ rest = other.name.toList ++ rest') : yield = other := by
  have hprefix : yield.name.toList <+: other.name.toList ++ rest' := by
    rw [← h]
    exact List.prefix_append _ _
  rcases List.prefix_or_prefix_of_prefix hprefix (List.prefix_append _ _) with hle | hge
  · exact eq_of_names_start_alike hle
  · exact (eq_of_names_start_alike hge).symm

end Yield

namespace Term

open Reader

theorem readYield_eq_some_iff {s rest : List Char} {yield : Yield} :
    readYield s = some (yield, rest) ↔ s = yield.name.toList ++ rest := by
  constructor
  · intro h
    obtain ⟨found, -, hfound⟩ := List.exists_of_findSome?_eq_some h
    obtain ⟨⟨u, mid⟩, htext, heq⟩ := Option.map_eq_some_iff.mp hfound
    obtain ⟨rfl, rfl⟩ := Prod.mk.inj heq
    exact text_eq_some_iff.mp htext
  · rintro rfl
    have hself : text yield.name (yield.name.toList ++ rest) = some ((), rest) :=
      text_eq_some_iff.mpr rfl
    have hsome : (readYield (yield.name.toList ++ rest)).isSome = true := by
      unfold readYield
      rw [List.findSome?_isSome_iff]
      exact ⟨yield, Yield.mem_all yield, by rw [hself]; rfl⟩
    -- what is found is this yield, since no other one has a name that the text starts with
    obtain ⟨found, hfound⟩ := Option.isSome_iff_exists.mp hsome
    obtain ⟨other, -, hother⟩ := List.exists_of_findSome?_eq_some hfound
    obtain ⟨⟨u, mid⟩, htext, rfl⟩ := Option.map_eq_some_iff.mp hother
    have hname : yield.name.toList ++ rest = other.name.toList ++ mid :=
      text_eq_some_iff.mp htext
    obtain rfl := Yield.eq_of_append_name hname
    rw [hfound, List.append_cancel_left hname]

/-! ## Written terms -/

/-- **Written**: at least one decimal digit in front of the point, and behind it if there
    is one. -/
structure IsWritten (term : Term) : Prop where
  whole_ne_nil : term.whole ≠ []
  fraction_ne_nil : ∀ fraction ∈ term.fraction, fraction ≠ []
  digits : ∀ c ∈ term.digits, isDecimalDigit c = true

/-- The amount without its sign, as it is written. -/
def magnitude (term : Term) : List Char :=
  match term.fraction with
  | none => term.whole
  | some fraction => term.whole ++ '.' :: fraction

/-- What is written of a term behind its sign. -/
def unsigned (term : Term) : List Char :=
  term.magnitude ++ ' ' :: term.yield.name.toList

/-- **Text** of a term: its sign, its amount, a space, and the name of its yield. -/
def source (term : Term) : List Char :=
  (if term.negative then '-' else '+') :: term.unsigned

/-- The sign of a term is the one that was read. -/
theorem sign_eq {c : Char} (h : (c == '+' || c == '-') = true) :
    c = if c = '-' then '-' else '+' := by
  rw [Bool.or_eq_true, beq_iff_eq, beq_iff_eq] at h
  rcases h with rfl | rfl <;> rfl

/-- What is read as a term is the text of a written term. -/
theorem eq_source_of_read {s rest : List Char} {term : Term} (h : read s = some (term, rest)) :
    term.IsWritten ∧ s = term.source ++ rest := by
  unfold read at h
  simp only [bind_eq_some_iff, satisfy_eq_some_iff, spanOne_eq_some_iff, optional_eq_some_iff,
    char_eq_some_iff, readYield_eq_some_iff, pure_eq_some_iff] at h
  obtain ⟨sign, _, ⟨hsign, rfl⟩, whole, _, ⟨hwhole, rfl, hdigits, -⟩, fraction, _, hfraction, -, _,
    rfl, yield, _, rfl, rfl, rfl⟩ := h
  rcases hfraction with ⟨places, rfl, -, _, rfl, hplaces, rfl, hdigits', -⟩ | ⟨rfl, -, rfl⟩
  · constructor
    · refine ⟨hwhole, ?_, ?_⟩
      · rintro _ ⟨⟩
        exact hplaces
      · exact List.forall_mem_append.mpr ⟨hdigits, hdigits'⟩
    · simpa [source, unsigned, magnitude] using sign_eq hsign
  · constructor
    · refine ⟨hwhole, ?_, ?_⟩
      · rintro _ ⟨⟩
      · simpa [Term.digits] using hdigits
    · simpa [source, unsigned, magnitude] using sign_eq hsign

/-- In front of a space, the digits of an amount are read as they are written. -/
theorem read_magnitude {term : Term} (h : term.IsWritten) (rest : List Char) :
    ∃ mid, spanOne isDecimalDigit (term.magnitude ++ ' ' :: rest) = some (term.whole, mid) ∧
      optional (do char '.'; spanOne isDecimalDigit) mid = some (term.fraction, ' ' :: rest) := by
  obtain ⟨hdigits, hplaces⟩ := List.forall_mem_append.mp h.digits
  -- no run of digits goes on: behind it stands a point or a space
  have hrun : ∀ {run tail : List Char} {c : Char}, run ≠ [] →
      (∀ d ∈ run, isDecimalDigit d = true) → isDecimalDigit c = false →
      spanOne isDecimalDigit (run ++ c :: tail) = some (run, c :: tail) := by
    intro run tail c hne hall hc
    refine spanOne_eq_some_iff.mpr ⟨hne, rfl, hall, ?_⟩
    rintro _ ⟨⟩
    exact hc
  unfold magnitude
  cases hfraction : term.fraction with
  | none =>
    refine ⟨' ' :: rest, hrun h.whole_ne_nil hdigits (by decide), optional_of_eq_none ?_⟩
    exact bind_of_eq_none (char_eq_none_iff.mpr (by simp))
  | some places =>
    have hpoint : char '.' ('.' :: (places ++ ' ' :: rest)) = some ((), places ++ ' ' :: rest) :=
      char_eq_some_iff.mpr rfl
    rw [hfraction] at hplaces
    refine ⟨'.' :: (places ++ ' ' :: rest), ?_, optional_of_eq_some ?_⟩
    · rw [List.append_assoc]
      exact hrun h.whole_ne_nil hdigits (by decide)
    · rw [bind_of_eq_some hpoint]
      exact hrun (h.fraction_ne_nil places hfraction) hplaces (by decide)

/-- The text of a written term is read as the term, whatever follows. -/
theorem read_source {term : Term} (h : term.IsWritten) (rest : List Char) :
    read (term.source ++ rest) = some (term, rest) := by
  have hsign : satisfy (fun c => c == '+' || c == '-') (term.source ++ rest) =
      some (if term.negative then '-' else '+', term.unsigned ++ rest) := by
    refine satisfy_eq_some_iff.mpr ⟨?_, rfl⟩
    cases term.negative <;> rfl
  have hnegative : ((if term.negative then '-' else '+') == '-') = term.negative := by
    cases term.negative <;> rfl
  obtain ⟨mid, hwhole, hfraction⟩ := read_magnitude h (term.yield.name.toList ++ rest)
  have hunsigned : term.unsigned ++ rest =
      term.magnitude ++ ' ' :: (term.yield.name.toList ++ rest) := by
    simp [unsigned]
  have hspace : char ' ' (' ' :: (term.yield.name.toList ++ rest)) =
      some ((), term.yield.name.toList ++ rest) := char_eq_some_iff.mpr rfl
  have hyield : readYield (term.yield.name.toList ++ rest) = some (term.yield, rest) :=
    readYield_eq_some_iff.mpr rfl
  unfold read
  rw [bind_of_eq_some hsign, hunsigned, bind_of_eq_some hwhole, bind_of_eq_some hfraction,
    bind_of_eq_some hspace, bind_of_eq_some hyield, hnegative]
  rfl

/-- **Reading** a term succeeds on the texts of written terms, whatever follows. -/
theorem read_eq_some_iff {s rest : List Char} {term : Term} :
    read s = some (term, rest) ↔ term.IsWritten ∧ s = term.source ++ rest := by
  constructor
  · exact eq_source_of_read
  · rintro ⟨hwritten, rfl⟩
    exact read_source hwritten rest

/-! ## Searching for terms -/

/-- An amount is its digits, and a point between them if there is one. -/
theorem mem_magnitude_iff {term : Term} {c : Char} :
    c ∈ term.magnitude ↔ c ∈ term.digits ∨ term.fraction.isSome = true ∧ c = '.' := by
  unfold magnitude digits
  cases term.fraction with
  | none => simp
  | some places =>
    rw [List.mem_append, List.mem_cons, Option.getD_some, List.mem_append]
    constructor
    · rintro (hwhole | rfl | hplaces)
      · exact .inl (.inl hwhole)
      · exact .inr ⟨rfl, rfl⟩
      · exact .inl (.inr hplaces)
    · rintro ((hwhole | hplaces) | ⟨-, rfl⟩)
      · exact .inl hwhole
      · exact .inr (.inr hplaces)
      · exact .inr (.inl rfl)

/-- A character that is neither a digit nor a point stands nowhere in an amount. -/
theorem not_mem_magnitude {term : Term} (h : term.IsWritten) {c : Char}
    (hdigit : isDecimalDigit c = false) (hpoint : c ≠ '.') : c ∉ term.magnitude := by
  intro hc
  rcases mem_magnitude_iff.mp hc with hin | ⟨-, hdot⟩
  · exact absurd (hdigit.symm.trans (h.digits c hin)) (by decide)
  · exact hpoint hdot

/-- A character that is neither a digit, a point or a space nor a letter of a name stands
    nowhere behind the sign of a term. -/
theorem not_mem_unsigned {term : Term} (h : term.IsWritten) {c : Char}
    (hdigit : isDecimalDigit c = false) (hpoint : c ≠ '.') (hspace : c ≠ ' ')
    (hletter : ∀ yield ∈ Yield.all, c ∉ yield.name.toList) : c ∉ term.unsigned := by
  intro hc
  rcases List.mem_append.mp hc with hamount | hname
  · exact not_mem_magnitude h hdigit hpoint hamount
  · rcases List.mem_cons.mp hname with hblank | hin
    · exact hspace hblank
    · exact hletter term.yield (Yield.mem_all _) hin

/-- No sign stands behind the sign of a term. -/
theorem no_sign_in_unsigned {term : Term} (h : term.IsWritten) :
    ∀ c ∈ term.unsigned, c ≠ '+' ∧ c ≠ '-' := by
  intro c hc
  constructor
  · rintro rfl
    exact not_mem_unsigned h (by decide) (by decide) (by decide) (by decide) hc
  · rintro rfl
    exact not_mem_unsigned h (by decide) (by decide) (by decide) (by decide) hc

theorem no_comma_in_source {term : Term} (h : term.IsWritten) : ',' ∉ term.source := by
  intro hc
  rcases List.mem_cons.mp hc with hsign | hunsigned
  · cases hnegative : term.negative <;> simp [hnegative] at hsign
  · exact not_mem_unsigned h (by decide) (by decide) (by decide) (by decide) hunsigned

theorem read_eq_none_of_no_sign {c : Char} (h : c ≠ '+' ∧ c ≠ '-') (rest : List Char) :
    read (c :: rest) = none := by
  rw [Option.eq_none_iff_forall_ne_some]
  rintro ⟨term, mid⟩ hread
  obtain ⟨-, heq⟩ := eq_source_of_read hread
  obtain ⟨hsign, -⟩ := List.cons.inj heq
  split at hsign
  · exact h.2 hsign
  · exact h.1 hsign

/-- Without a sign there is no term. -/
theorem all_append_of_no_sign {front : List Char} (h : ∀ c ∈ front, c ≠ '+' ∧ c ≠ '-')
    (rest : List Char) : all (front ++ rest) = all rest := by
  induction front with
  | nil => rfl
  | cons c front ih =>
    have hnone : read (c :: (front ++ rest)) = none :=
      read_eq_none_of_no_sign (h c List.mem_cons_self) _
    rw [List.cons_append, all, hnone]
    exact ih fun b hb => h b (List.mem_cons_of_mem _ hb)

/-- The search finds a term where it is written, and goes on behind it. -/
theorem all_source_append {term : Term} (h : term.IsWritten) (rest : List Char) :
    all (term.source ++ rest) = term :: all rest := by
  have hread := read_source h rest
  unfold source at hread ⊢
  rw [List.cons_append] at hread ⊢
  rw [all, hread]
  exact congrArg (term :: ·) (all_append_of_no_sign (no_sign_in_unsigned h) rest)

/-! ## Joined terms -/

/-- **Joined**: the texts of terms with a comma and a space between them. -/
def joined (terms : List Term) : List Char := [',', ' '].intercalate (terms.map source)

theorem joined_cons_cons (term next : Term) (others : List Term) :
    joined (term :: next :: others) = term.source ++ ([',', ' '] ++ joined (next :: others)) := by
  simp [joined, List.intercalate_cons_cons]

/-- Searching a text of joined terms finds them. -/
theorem all_joined {terms : List Term} (h : ∀ term ∈ terms, term.IsWritten) :
    all (joined terms) = terms := by
  induction terms with
  | nil => rfl
  | cons term rest ih =>
    have hterm : term.IsWritten := h term List.mem_cons_self
    have hrest := ih fun t ht => h t (List.mem_cons_of_mem _ ht)
    cases rest with
    | nil =>
      have hone := all_source_append hterm []
      rw [List.append_nil] at hone
      simpa [joined, all] using hone
    | cons next others =>
      have hcomma : ∀ c ∈ [',', ' '], c ≠ '+' ∧ c ≠ '-' := by simp
      rw [joined_cons_cons, all_source_append hterm, all_append_of_no_sign hcomma, hrest]

/-- The digits of a text of joined terms are the digits of its terms. -/
theorem mem_joined_iff {terms : List Term} {c : Char} (hc : isDecimalDigit c = true) :
    c ∈ joined terms ↔ ∃ term ∈ terms, c ∈ term.digits := by
  have hother : ∀ {d : Char}, isDecimalDigit d = false → c ≠ d := by
    rintro d hd rfl
    exact absurd (hc.symm.trans hd) (by decide)
  have hname : ∀ yield ∈ Yield.all, yield.name.toList.all (!isDecimalDigit ·) = true := by decide
  have hsource : ∀ term : Term, c ∈ term.source ↔ c ∈ term.digits := by
    intro term
    have hsign : c ≠ if term.negative then '-' else '+' := by
      split
      · exact hother (by decide)
      · exact hother (by decide)
    have hletter : c ∉ term.yield.name.toList :=
      Reader.not_mem_of_all_not (hname _ (Yield.mem_all _)) hc
    have hpoint : c ≠ '.' := hother (by decide)
    have hspace : c ≠ ' ' := hother (by decide)
    simp [source, unsigned, mem_magnitude_iff, hsign, hletter, hpoint, hspace]
  induction terms with
  | nil => simp [joined]
  | cons term rest ih =>
    cases rest with
    | nil => simp [joined, hsource]
    | cons next others =>
      have hcomma : c ∉ [',', ' '] := by
        rw [List.mem_cons, List.mem_singleton, not_or]
        exact ⟨hother (by decide), hother (by decide)⟩
      rw [joined_cons_cons, List.mem_append, List.mem_append, hsource, or_iff_right hcomma]
      simp only [List.mem_cons, exists_eq_or_imp] at ih ⊢
      exact or_congr_right ih

end Term

/-! ## Tokens -/

theorem commaParts_ne_nil (s : List Char) : commaParts s ≠ [] := by
  fun_induction commaParts s with
  | case1 => simp
  | case2 => simp
  | case3 => simp
  | case4 => simp

/-- Joining the parts gives the text back. -/
theorem intercalate_commaParts (s : List Char) :
    [',', ' '].intercalate (commaParts s) = s := by
  fun_induction commaParts s with
  | case1 rest ih =>
    obtain ⟨part, others, heq⟩ := List.exists_cons_of_ne_nil (commaParts_ne_nil rest)
    rw [heq] at ih ⊢
    rw [List.intercalate_cons_cons, ih]
    rfl
  | case2 c rest _ hnil => exact absurd hnil (commaParts_ne_nil rest)
  | case3 c rest _ part others heq ih =>
    rw [heq] at ih
    rw [← ih]
    cases others <;> simp [List.intercalate_cons_cons]
  | case4 => rfl

theorem commaParts_cons_of_ne {c : Char} (hc : c ≠ ',') {rest part : List Char}
    {others : List (List Char)} (h : commaParts rest = part :: others) :
    commaParts (c :: rest) = (c :: part) :: others := by
  rw [commaParts, h]
  exact fun _ heq => absurd heq hc

/-- A part ends at a comma. -/
theorem commaParts_append {front : List Char} (hfront : ',' ∉ front) {rest part : List Char}
    {others : List (List Char)} (h : commaParts rest = part :: others) :
    commaParts (front ++ rest) = (front ++ part) :: others := by
  induction front with
  | nil => exact h
  | cons c front ih =>
    rw [List.mem_cons, not_or] at hfront
    obtain ⟨hc, hrest⟩ := hfront
    exact commaParts_cons_of_ne (Ne.symm hc) (ih hrest)

/-- Taking joined parts apart gives the parts back if no comma stands in them. -/
theorem commaParts_intercalate {parts : List (List Char)} (hne : parts ≠ [])
    (h : ∀ part ∈ parts, ',' ∉ part) : commaParts ([',', ' '].intercalate parts) = parts := by
  induction parts with
  | nil => exact absurd rfl hne
  | cons part rest ih =>
    have hpart : ',' ∉ part := h part List.mem_cons_self
    cases rest with
    | nil =>
      have hnil : commaParts [] = [[]] := rfl
      have hone := commaParts_append hpart hnil
      simpa using hone
    | cons next others =>
      have hrest := ih (List.cons_ne_nil next others) fun p hp => h p (List.mem_cons_of_mem _ hp)
      have hcomma : commaParts (',' :: ' ' :: [',', ' '].intercalate (next :: others)) =
          [] :: next :: others := by rw [commaParts, hrest]
      have hcut := commaParts_append hpart hcomma
      rw [List.append_nil] at hcut
      rw [List.intercalate_cons_cons, List.append_assoc]
      exact hcut

namespace Yields

/-- Each part read as a whole term: that succeeds on the texts of written terms. -/
theorem mapM_readAll_eq_some_iff {parts : List (List Char)} {terms : List Term} :
    parts.mapM (Reader.readAll Term.read) = some terms ↔
      (∀ term ∈ terms, term.IsWritten) ∧ parts = terms.map Term.source := by
  have hread : ∀ (part : List Char) (term : Term), Reader.readAll Term.read part = some term ↔
      term.IsWritten ∧ part = term.source := by
    intro part term
    rw [Reader.readAll_eq_some_iff, Term.read_eq_some_iff, List.append_nil]
  induction parts generalizing terms with
  | nil =>
    rw [List.mapM_nil, Option.pure_def, Option.some.injEq, eq_comm (a := ([] : List Term))]
    constructor
    · rintro rfl
      simp
    · rintro ⟨-, hnil⟩
      exact List.map_eq_nil_iff.mp hnil.symm
  | cons part rest ih =>
    rw [List.mapM_cons]
    simp only [Option.bind_eq_bind, Option.bind_eq_some_iff, Option.pure_def, hread, ih,
      Option.some.injEq]
    constructor
    · rintro ⟨term, ⟨hterm, rfl⟩, others, ⟨hothers, rfl⟩, rfl⟩
      exact ⟨List.forall_mem_cons.mpr ⟨hterm, hothers⟩, rfl⟩
    · rintro ⟨hwritten, heq⟩
      obtain ⟨term, others, rfl, rfl, rfl⟩ := List.map_eq_cons_iff.mp heq.symm
      obtain ⟨hterm, hothers⟩ := List.forall_mem_cons.mp hwritten
      exact ⟨term, ⟨hterm, rfl⟩, others, ⟨hothers, rfl⟩, rfl⟩

/-- **Tokens** are the texts of one or more written terms, joined. -/
theorem tokenTerms?_eq_some_iff {text : List Char} {terms : List Term} :
    tokenTerms? text = some terms ↔
      terms ≠ [] ∧ (∀ term ∈ terms, term.IsWritten) ∧ text = Term.joined terms := by
  unfold tokenTerms?
  rw [mapM_readAll_eq_some_iff]
  constructor
  · rintro ⟨hwritten, hparts⟩
    refine ⟨?_, hwritten, ?_⟩
    · rintro rfl
      exact commaParts_ne_nil text hparts
    · rw [Term.joined, ← hparts, intercalate_commaParts]
  · rintro ⟨hne, hwritten, rfl⟩
    refine ⟨hwritten, commaParts_intercalate (by simpa using hne) ?_⟩
    intro part hpart hcomma
    obtain ⟨term, hterm, rfl⟩ := List.mem_map.mp hpart
    exact Term.no_comma_in_source (hwritten term hterm) hcomma

end Yields

end EffectText
