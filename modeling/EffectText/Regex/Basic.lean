import EffectText.Text.CodeRanges

/-! # Regular expressions

    A regular expression is made of characters from sets and of assertions about
    positions, by sequence, choice and repetition.

    Its **size** estimates the bytes of an automaton that reads the expression from a
    text in UTF-8. Counted repetitions are written out in it, so that a short pattern
    can have a very large automaton.
-/

namespace EffectText

open Text

/-! ## Assertions -/

/-- What is asked of the characters at either side of a position, as to whether they
    belong to a word. -/
inductive WordTest where
  | boundary
  | noBoundary
  | start
  | finish
  | startHalf
  | finishHalf
  deriving DecidableEq, Repr

namespace WordTest

/-- Whether the test holds between a character that belongs to a word or not and
    another one. The ends of a text do not belong to a word. -/
def holds (test : WordTest) (before after : Bool) : Bool :=
  match test with
  | .boundary => before != after
  | .noBoundary => before == after
  | .start => !before && after
  | .finish => before && !after
  | .startHalf => !before
  | .finishHalf => !after

end WordTest

/-- **Assertion** about a position of a text. -/
inductive Assertion where
  | textStart
  | textEnd
  /-- After a line feed or at the start of the text. If carriage returns count, one
      ends a line as well, and together with a line feed they end one. -/
  | lineStart (returns : Bool)
  /-- Before a line feed or at the end of the text, and likewise. -/
  | lineEnd (returns : Bool)
  /-- A test as to which characters belong to a word. -/
  | word (test : WordTest) (wordRanges : CodeRanges)
  deriving DecidableEq, Repr

namespace Assertion

/-- Whether the assertion holds between two characters, either of which may be missing
    at an end of the text. -/
def holds (assertion : Assertion) (before after : Option Char) : Bool :=
  match assertion with
  | .textStart => before.isNone
  | .textEnd => after.isNone
  | .lineStart false => before.all (· == '\n')
  | .lineEnd false => after.all (· == '\n')
  | .lineStart true => before.all fun c => c == '\n' || (c == '\r' && after != some '\n')
  | .lineEnd true => after.all fun c => c == '\r' || (c == '\n' && before != some '\r')
  | .word test wordRanges =>
    let inWord (c : Option Char) : Bool := c.any (wordRanges.contains ·.toNat)
    test.holds (inWord before) (inWord after)

end Assertion

/-! ## Expressions -/

/-- A regular expression. -/
inductive Regex where
  /-- The empty text. -/
  | empty
  /-- One character of a set. -/
  | chars (set : CodeRanges)
  /-- The empty text, at a position where an assertion holds. -/
  | assert (assertion : Assertion)
  /-- One expression after another. -/
  | seq (first second : Regex)
  /-- Either of two expressions. -/
  | alt (first second : Regex)
  /-- An expression of which the place is kept. -/
  | capture (body : Regex)
  /-- An expression at least `least` times, and at most `most` times if there is a
      bound. -/
  | repeat (body : Regex) (least : Nat) (most : Option Nat)
  deriving DecidableEq, Repr

namespace Regex

/-- The expressions one after another. -/
def seqAll (parts : List Regex) : Regex :=
  match parts.reverse with
  | [] => .empty
  | last :: before => before.foldl (fun rest part => .seq part rest) last

/-- Any of the expressions, of which there is at least one. -/
def altAll (first : Regex) (others : List Regex) : Regex := others.foldl .alt first

/-! ## Size -/

/-- The bytes of one state of an automaton. -/
def stateSize : Nat := 32

/-- The bytes of a state with two ways on. -/
def forkSize : Nat := stateSize + 8

/-- The size of the states for the code points from `first` to `last`. The code points
    of each length in UTF-8 have states of their own, and many of them need several
    rows of states. -/
def rangeSize (first last : Nat) : Nat :=
  let part (least greatest many few : Nat) (manyFrom : Nat) : Nat :=
    let first := max first least
    let last := min last greatest
    if last < first then 0 else if manyFrom ≤ last - first then many else few
  part 0 0x7F 36 36 0 + part 0x80 0x7FF 68 68 0 + part 0x800 0xFFFF 400 64 0x1000 +
    part 0x10000 0x10FFFF 400 64 0x40000

/-- The size of the states for a set. One state has all ways on for ASCII, and one code
    point has a state for each of its bytes. -/
def setSize (set : CodeRanges) : Nat :=
  match set with
  | [(first, last)] =>
    if first = last then stateSize * (Char.ofNat first).utf8Size
    else if last < 0x80 then 2 * stateSize + 8
    else 2 * stateSize + rangeSize first last
  | _ =>
    if set.all (·.2 < 0x80) then 2 * stateSize + 8 * set.length
    else set.foldl (fun total (first, last) => total + rangeSize first last) (2 * stateSize)

/-- Whether only the empty text can match. -/
def isWidthless : Regex → Bool
  | .empty => true
  | .chars _ => false
  | .assert _ => true
  | .seq a b => a.isWidthless && b.isWidthless
  | .alt a b => a.isWidthless && b.isWidthless
  | .capture body => body.isWidthless
  | .repeat body _ most => body.isWidthless || most == some 0

/-- **Size**: an estimate of the bytes of an automaton for the expression. Each round
    that a repetition must make is written out, and each that it may make. One round is
    as good as more if only the empty text can match in it. -/
def size : Regex → Nat
  | .empty => stateSize
  | .chars set => setSize set
  | .assert _ => stateSize
  | .seq a b => a.size + b.size
  | .alt a b => a.size + b.size + forkSize
  | .capture body => body.size + 2 * stateSize
  | .repeat body least most =>
    let rounds (n : Nat) : Nat := if body.isWidthless then min n 1 else n
    match most with
    | none => (max (rounds least) 1) * body.size + forkSize
    | some most =>
      rounds least * body.size + (rounds most - rounds least) * (body.size + forkSize) +
        stateSize

end Regex

end EffectText
