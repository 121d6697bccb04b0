/-! # Bracketed groups in a text

    A **group** is an opening bracket and the next bracket after it, where that
    next bracket is a closing one. Every other bracket is an ordinary character
    of the text: one without a partner, and the outer brackets of a nested pair.

    `segments` cuts a text into its groups and its other characters. Reading
    goes from the right: an opening bracket looks at what has been cut behind
    it, and takes everything up to a closing bracket if no other bracket, and so
    no other group, stands between.

    Main statement: joining the segments gives the text back
    (`source_segments`), so each group is shorter than the text
    (`length_lt_of_mem_groups`).
-/

namespace EffectText.Text

/-! ## Delimiters -/

/-- A pair of brackets: two different characters. -/
structure Delimiters where
  /-- The bracket that opens a group. -/
  opening : Char
  /-- The bracket that closes a group. -/
  closing : Char
  /-- One character cannot do both. -/
  opening_ne_closing : opening ≠ closing := by decide

/-- `[` and `]`, around the parameters of a clause. -/
def Delimiters.square : Delimiters := { opening := '[', closing := ']' }

/-- `<` and `>`, around the conditions of a statement. -/
def Delimiters.angle : Delimiters := { opening := '<', closing := '>' }

/-- One of the two brackets. -/
def Delimiters.isBracket (d : Delimiters) (c : Char) : Bool :=
  c == d.opening || c == d.closing

/-! ## Segments -/

/-- A piece of a text: one character outside all groups, or one group. -/
inductive Segment where
  /-- A character that stands for itself. -/
  | literal (c : Char)
  /-- A group, with the text between its brackets. -/
  | group (inner : List Char)
  deriving DecidableEq, Repr

/-- What an opening bracket takes from the segments behind it: the characters
    before the first bracket, and the segments after that bracket. There is
    nothing to take if the first bracket is not a closing one. -/
def takeInner (d : Delimiters) : List Segment → Option (List Char × List Segment)
  | .literal c :: rest =>
    if c = d.closing then some ([], rest)
    else if c = d.opening then none
    else (takeInner d rest).map fun (inner, after) => (c :: inner, after)
  | _ => none

/-- The segments that an opening bracket makes in front of `following`. -/
def openGroup (d : Delimiters) (following : List Segment) : List Segment :=
  match takeInner d following with
  | some (inner, after) => .group inner :: after
  | none => .literal d.opening :: following

/-- **Segments**: a text cut into its groups and its other characters. -/
def segments (d : Delimiters) : List Char → List Segment
  | [] => []
  | c :: rest =>
    if c = d.opening then openGroup d (segments d rest)
    else .literal c :: segments d rest

/-! ## Views of the segments -/

/-- The texts between the brackets of the groups, in order. -/
def groups : List Segment → List (List Char)
  | [] => []
  | .literal _ :: rest => groups rest
  | .group inner :: rest => inner :: groups rest

/-- The characters outside all groups, in order. -/
def literals : List Segment → List Char
  | [] => []
  | .literal c :: rest => c :: literals rest
  | .group _ :: rest => literals rest

/-- The text with every group emptied: its brackets stay, what they hold goes. -/
def emptied (d : Delimiters) : List Segment → List Char
  | [] => []
  | .literal c :: rest => c :: emptied d rest
  | .group _ :: rest => d.opening :: d.closing :: emptied d rest

/-- The text that the segments were cut from. -/
def source (d : Delimiters) : List Segment → List Char
  | [] => []
  | .literal c :: rest => c :: source d rest
  | .group inner :: rest => d.opening :: (inner ++ d.closing :: source d rest)

/-! ## Cutting loses nothing -/

/-- What `takeInner` takes and what it leaves make up what it was given. -/
theorem source_takeInner {d : Delimiters} {segs after : List Segment} {inner : List Char}
    (h : takeInner d segs = some (inner, after)) :
    source d segs = inner ++ d.closing :: source d after := by
  induction segs generalizing inner with
  | nil => simp [takeInner] at h
  | cons seg rest ih =>
    cases seg with
    | group g => simp [takeInner] at h
    | literal c =>
      by_cases hc : c = d.closing
      · simp only [takeInner, hc, if_true, Option.some.injEq, Prod.mk.injEq] at h
        obtain ⟨rfl, rfl⟩ := h
        simp [source, hc]
      · by_cases ho : c = d.opening
        · simp [takeInner, ho, d.opening_ne_closing] at h
        · simp only [takeInner, hc, ho, if_false, Option.map_eq_some_iff] at h
          obtain ⟨⟨inner', after'⟩, htake, heq⟩ := h
          simp only [Prod.mk.injEq] at heq
          obtain ⟨rfl, rfl⟩ := heq
          simp [source, ih htake]

theorem source_openGroup (d : Delimiters) (following : List Segment) :
    source d (openGroup d following) = d.opening :: source d following := by
  unfold openGroup
  split
  · next h => rw [source_takeInner h]; rfl
  · rfl

/-- Joining the segments of a text gives the text back. -/
theorem source_segments (d : Delimiters) (s : List Char) : source d (segments d s) = s := by
  induction s with
  | nil => rfl
  | cons c rest ih =>
    by_cases h : c = d.opening
    · simp [segments, h, source_openGroup, ih]
    · simp [segments, h, source, ih]

/-- A group is shorter than the text it stands in. -/
theorem length_lt_length_source {d : Delimiters} {segs : List Segment} {inner : List Char}
    (h : inner ∈ groups segs) : inner.length < (source d segs).length := by
  induction segs with
  | nil => simp [groups] at h
  | cons seg rest ih =>
    cases seg with
    | literal c =>
      have := ih h
      simp only [source, List.length_cons]
      omega
    | group g =>
      simp only [source, List.length_cons, List.length_append]
      rcases List.mem_cons.1 h with rfl | hrest
      · omega
      · have := ih hrest
        omega

/-- A group of a text is shorter than the text. -/
theorem length_lt_of_mem_groups {d : Delimiters} {s inner : List Char}
    (h : inner ∈ groups (segments d s)) : inner.length < s.length := by
  simpa [source_segments] using length_lt_length_source (d := d) h

end EffectText.Text
