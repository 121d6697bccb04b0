import EffectText.Regex.Escape

/-! # Classes in brackets

    Square brackets hold the characters of a class: single ones, ranges, escapes, named
    classes of ASCII and other brackets. A caret at the start stands for the opposite.
    Two ampersands, hyphens or tildes between parts keep the characters that are in
    both, in the first only, or in exactly one.

    With every class comes its **depth**: how deep its parts are nested.
-/

namespace EffectText

open Text

/-- **Nested** part of a pattern: what it stands for, and how deep it is. -/
structure Nested (α : Type) where
  value : α
  depth : Nat
  deriving DecidableEq, Repr

/-- The depth of several parts together, none of which adds to it alone. -/
def joinedDepth (depths : List Nat) : Nat :=
  match depths with
  | [] => 0
  | [depth] => depth
  | _ => depths.foldl max 0 + 1

namespace PatternClass

open PatternReader

/-! ## Named classes -/

/-- The ASCII class of a name. -/
def named? (name : String) : Option CodeRanges :=
  match name with
  | "alnum" => some [(0x30, 0x39), (0x41, 0x5A), (0x61, 0x7A)]
  | "alpha" => some [(0x41, 0x5A), (0x61, 0x7A)]
  | "ascii" => some [(0x00, 0x7F)]
  | "blank" => some [(0x09, 0x09), (0x20, 0x20)]
  | "cntrl" => some [(0x00, 0x1F), (0x7F, 0x7F)]
  | "digit" => some [(0x30, 0x39)]
  | "graph" => some [(0x21, 0x7E)]
  | "lower" => some [(0x61, 0x7A)]
  | "print" => some [(0x20, 0x7E)]
  | "punct" => some [(0x21, 0x2F), (0x3A, 0x40), (0x5B, 0x60), (0x7B, 0x7E)]
  | "space" => some [(0x09, 0x0D), (0x20, 0x20)]
  | "upper" => some [(0x41, 0x5A)]
  | "word" => some [(0x30, 0x39), (0x41, 0x5A), (0x5F, 0x5F), (0x61, 0x7A)]
  | "xdigit" => some [(0x30, 0x39), (0x41, 0x46), (0x61, 0x66)]
  | _ => none

/-- The name of an ASCII class between brackets and colons, and whether the opposite
    is meant. -/
def nameReader : Reader (CodeRanges × Bool) := do
  Reader.text "[:"
  let caret ← Reader.optional (Reader.char '^')
  let name ← Reader.span (· != ':')
  Reader.text ":]"
  match named? (String.ofList name) with
  | some set => return (set, caret.isSome)
  | none => failure

/-! ## Operations -/

/-- An operation on the classes at either side. -/
inductive Operation where
  | inter
  | diff
  | symmDiff
  deriving DecidableEq, Repr

/-- The operation that two characters stand for. -/
def Operation.ofText? (text : List Char) : Option Operation :=
  match text with
  | ['&', '&'] => some .inter
  | ['-', '-'] => some .diff
  | ['~', '~'] => some .symmDiff
  | _ => none

/-- The characters that an operation keeps. -/
def Operation.apply : Operation → CodeRanges → CodeRanges → CodeRanges
  | .inter, a, b => a.inter b
  | .diff, a, b => a.diff b
  | .symmDiff, a, b => a.symmDiff b

/-- A class that waits for the other side of an operation. -/
abbrev Waiting := Option (Nested CodeRanges × Operation)

/-- The class of parts side by side, after the operation that waits for it. -/
def combined (flags : Flags) (waiting : Waiting) (parts : List (Nested CodeRanges)) :
    Nested CodeRanges :=
  let right : Nested CodeRanges :=
    { value := .unionAll (parts.map (·.value)), depth := joinedDepth (parts.map (·.depth)) }
  match waiting with
  | none => right
  | some (left, operation) =>
    { value := operation.apply (flags.caseless left.value) (flags.caseless right.value)
      depth := max left.depth right.depth + 1 }

/-! ## Parts -/

/-- One character or escape. -/
def sign : PatternReader PatternSign := do
  let c ← Reader.next
  if c == '\\' then PatternSign.escape else return .literal c false

/-- The character of a sign, if it stands for one. -/
def literal (sign : PatternSign) : PatternReader Char := do
  match sign with
  | .literal c _ =>
    -- without Unicode, classes hold ASCII only
    if (← flags).unicode || c.toNat < 0x80 then return c else failure
  | _ => failure

/-- Whether a range goes on: a hyphen that is neither the last character of the class
    nor the first half of an operation. -/
def rangeGoesOn : PatternReader Bool := do
  if (← peek) ≠ some '-' then return false
  let rest : List Char ← (get : Reader (List Char))
  let scope ← (get : PatternReader Scope)
  let after : PatternReader (Option Char) := do
    let _ ← take
    peek
  match (after.run scope).run rest with
  | some ((next, _), _) => return next ≠ some ']' && next ≠ some '-'
  | none => return false

/-- A character, a range or an escape. -/
def part : PatternReader (Nested CodeRanges) := do
  let first ← sign
  space
  if ← rangeGoesOn then
    let _ ← take
    let first ← literal first
    let last ← literal (← sign)
    if first.toNat ≤ last.toNat then
      return { value := [(first.toNat, last.toNat)], depth := 0 }
    else failure
  match first with
  | .oneOf set => return { value := set, depth := 0 }
  | _ => return { value := .single (← literal first), depth := 0 }

/-- The rest of a class up to its closing bracket, which is taken. `inner` reads other
    brackets; `parts` have been read since the operation that waits. -/
def body (inner : PatternReader (Nested CodeRanges)) :
    Nat → Waiting → List (Nested CodeRanges) → PatternReader (Nested CodeRanges)
  | 0, _, _ => failure
  | bound + 1, waiting, parts => do
    space
    let flags ← flags
    let rest : List Char ← (get : Reader (List Char))
    match rest with
    | [] => failure
    | '[' :: _ =>
      match ← Reader.optional nameReader with
      | some (set, opposite) =>
        match flags.closed opposite set with
        | some set => body inner bound waiting ({ value := set, depth := 0 } :: parts)
        | none => failure
      | none => body inner bound waiting ((← inner) :: parts)
    | ']' :: _ =>
      let _ ← Reader.next
      return combined flags waiting parts
    | _ =>
      match Operation.ofText? (rest.take 2) with
      | some operation =>
        let _ ← Reader.next
        let _ ← Reader.next
        body inner bound (some (combined flags waiting parts, operation)) []
      | none => body inner bound waiting ((← part) :: parts)

/-- Hyphens at the start of a class, which stand for themselves. -/
def hyphens : Nat → PatternReader (List (Nested CodeRanges))
  | 0 => return []
  | bound + 1 => do
    if (← peek) = some '-' then
      let c ← take
      return { value := .single c, depth := 0 } :: (← hyphens bound)
    return []

/-- **Class** in brackets. A closing bracket at its start stands for itself. Brackets in
    it are nested at most as deep as the bound. -/
def reader : Nat → PatternReader (Nested CodeRanges)
  | 0 => failure
  | bound + 1 => do
    Reader.char '['
    space
    let caret := (← peek) = some '^'
    if caret then
      let _ ← take
    let hyphens ← hyphens (← PatternReader.bound)
    let starts ←
      if hyphens.isEmpty && (← peek) = some ']' then do
        let c ← take
        pure [({ value := .single c, depth := 0 } : Nested CodeRanges)]
      else pure hyphens
    let inside ← body (reader bound) (← PatternReader.bound) none starts
    match (← flags).closed caret inside.value with
    | some set => return { value := set, depth := inside.depth + 1 }
    | none => failure

end PatternClass

end EffectText
