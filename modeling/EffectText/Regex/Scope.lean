import EffectText.Regex.Basic
import EffectText.Text.Blank
import EffectText.Text.Folding
import EffectText.Text.Reader

/-! # Reading patterns: what is switched on

    A pattern is read under **flags**, which it may switch on and off itself. With them
    goes what they decide: which blanks are passed over, and which characters a
    character of the pattern stands for.
-/

namespace EffectText

open Text

/-! ## Flags -/

/-- **Flags** of a pattern. -/
structure Flags where
  /-- Letters stand for themselves in either case. -/
  ignoreCase : Bool := false
  /-- Lines have starts and ends of their own. -/
  multiLine : Bool := false
  /-- The point stands for line feeds too. -/
  pointIsAll : Bool := false
  /-- Carriage returns end lines as well. -/
  returns : Bool := false
  /-- Classes are those of Unicode, and not of ASCII alone. -/
  unicode : Bool := true
  /-- Repetitions are as short as possible unless they are marked. -/
  swapGreed : Bool := false
  /-- Blanks and comments mean nothing. -/
  spaced : Bool := false
  deriving DecidableEq, Repr

/-- The flags with the one of a letter switched on or off. -/
def Flags.set? (flags : Flags) (letter : Char) (on : Bool) : Option Flags :=
  match letter with
  | 'i' => some { flags with ignoreCase := on }
  | 'm' => some { flags with multiLine := on }
  | 's' => some { flags with pointIsAll := on }
  | 'R' => some { flags with returns := on }
  | 'u' => some { flags with unicode := on }
  | 'U' => some { flags with swapGreed := on }
  | 'x' => some { flags with spaced := on }
  | _ => none

/-- **Scope**: the flags at a place of a pattern, and the names of the groups before. -/
structure Scope where
  flags : Flags := {}
  names : List String := []
  deriving DecidableEq, Repr

/-- A reader of a part of a pattern. -/
abbrev PatternReader := StateT Scope Reader

namespace PatternReader

/-- The flags at this place. -/
def flags : PatternReader Flags := return (← get).flags

/-- Goes on under other flags. -/
def setFlags (flags : Flags) : PatternReader Unit := modify ({ · with flags })

/-- Passes over a comment up to the end of its line. -/
def lineComment : Reader Unit := do
  Reader.char '#'
  Reader.skip (· != '\n')

/-- Passes over blanks and comments, if they mean nothing. -/
def space : PatternReader Unit := do
  if (← flags).spaced then
    let blank : Reader Unit := do
      let _ ← Reader.satisfy isBlank
    let _ ← (Reader.many (blank <|> lineComment) : Reader (List Unit))

/-- The next character, left where it is. -/
def peek : PatternReader (Option Char) := Reader.peek

/-- Takes the next character, and passes over what means nothing after it. -/
def take : PatternReader Char := do
  let c ← Reader.next
  space
  return c

/-- Takes the text if it comes next, and tells whether it did. -/
def takeText (text : String) : PatternReader Bool := do
  let found ← Reader.optional (Reader.text text)
  return found.isSome

/-- A bound on what can still be read. -/
def bound : PatternReader Nat := do
  let rest : List Char ← (get : Reader (List Char))
  return rest.length + 1

end PatternReader

/-! ## Sets under flags -/

namespace Flags

/-- The characters that differ at most in case from those of the set, if case is
    ignored. -/
def caseless (flags : Flags) (set : CodeRanges) : CodeRanges :=
  if !flags.ignoreCase then set
  else if flags.unicode then set.caseless
  else set.caselessAscii

/-- A set that may be marked as the opposite. Without Unicode there are no opposites:
    they would hold halves of characters. -/
def closed (flags : Flags) (opposite : Bool) (set : CodeRanges) : Option CodeRanges :=
  let set := flags.caseless set
  if !opposite then some set
  else if flags.unicode then some set.complement
  else none

/-- The set that a character of a pattern stands for. -/
def single (flags : Flags) (c : Char) : CodeRanges :=
  if !flags.ignoreCase then .single c
  else if flags.unicode then .ofList (caseVariants c.toNat)
  else (CodeRanges.single c).caselessAscii

end Flags

end EffectText
