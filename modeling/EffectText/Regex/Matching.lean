import EffectText.Regex.Basic

/-! # Matching

    A regular expression takes a reader of a text from one position to another. From a
    set of positions, it reaches a set of positions. The sets are kept as **marks**, one
    for each position of the text from its start to its end.

    The expression occurs in the text if it reaches any position from any other.
-/

namespace EffectText.Regex

open Text

/-- **Marks**: whether each position of a text is in a set. -/
abbrev Marks := List Bool

/-- The marks of either set. -/
def Marks.or (a b : Marks) : Marks := List.zipWith (· || ·) a b

/-- The characters before and after each position of a text, where `before` stands in
    front of it. -/
def neighbours (before : Option Char) : List Char → List (Option Char × Option Char)
  | [] => [(before, none)]
  | c :: rest => (before, some c) :: neighbours (some c) rest

/-- The marks after `rounds` steps, or earlier if a step changes nothing. -/
def stepTimes (step : Marks → Marks) : Nat → Marks → Marks
  | 0, marks => marks
  | rounds + 1, marks =>
    let next := step marks
    if next = marks then marks else stepTimes step rounds next

/-- The marks after at most `rounds` steps. -/
def stepUpTo (step : Marks → Marks) : Nat → Marks → Marks
  | 0, marks => marks
  | rounds + 1, marks =>
    let next := marks.or (step marks)
    if next = marks then marks else stepUpTo step rounds next

/-- **Reach**: the positions that the expression can reach from marked ones. More
    rounds of a repetition than the text has positions make no difference: then there is
    a round that stays where it is, and it can be made again or left out. -/
def reach (text : List Char) : Regex → Marks → Marks
  | .empty, marks => marks
  | .chars set, marks =>
    false :: List.zipWith (fun mark c => mark && set.contains c.toNat) marks text
  | .assert assertion, marks =>
    List.zipWith (fun mark (before, after) => mark && assertion.holds before after) marks
      (neighbours none text)
  | .seq a b, marks => b.reach text (a.reach text marks)
  | .alt a b, marks => (a.reach text marks).or (b.reach text marks)
  | .capture body, marks => body.reach text marks
  | .repeat body least most, marks =>
    let step := body.reach text
    let positions := text.length + 1
    let more := (most.map (· - least)).getD positions
    stepUpTo step (min more positions) (stepTimes step (min least positions) marks)

/-- **Matching**: whether the expression occurs anywhere in a text. -/
def occursIn (regex : Regex) (text : String) : Bool :=
  let chars := text.toList
  (regex.reach chars (List.replicate (chars.length + 1) true)).any id

end EffectText.Regex
