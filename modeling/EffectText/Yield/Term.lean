import EffectText.Text.Reader
import EffectText.Yield.Basic

/-! # Yields in text

    A **term** is a sign, an amount, a space and the name of a yield, such as
    `+1 Gold` or `-0.5 Food`. The digits of an amount may be decimal digits of any
    script, but only ASCII digits make a number.

    * `Term.all` finds every term in a text, wherever it stands. No term overlaps
      another: a sign can only be its first character.
    * `Yields.ofText` adds up all terms of a text.
    * `Yields.isToken` recognizes a text that is nothing but terms joined by
      commas.
-/

namespace EffectText

open Text

/-- **Term**: one signed amount of a yield, as it is written. -/
structure Term where
  /-- Whether the sign is a minus. -/
  negative : Bool
  /-- The digits before the point. -/
  whole : List Char
  /-- The digits after the point, if there is one. -/
  fraction : Option (List Char)
  /-- What the amount is an amount of. -/
  yield : Yield
  deriving DecidableEq, Repr

namespace Term

/-! ## Reading -/

/-- The name of a yield. -/
def readYield : Reader Yield := fun s =>
  Yield.all.findSome? fun yield =>
    (Reader.text yield.name s).map fun (_, rest) => (yield, rest)

/-- One term at the front of a text. -/
def read : Reader Term := do
  let sign ← Reader.satisfy fun c => c == '+' || c == '-'
  let whole ← Reader.spanOne isDecimalDigit
  let fraction ← Reader.optional do
    Reader.char '.'
    Reader.spanOne isDecimalDigit
  Reader.char ' '
  let yield ← readYield
  return { negative := sign == '-', whole, fraction, yield }

/-- Every term in a text, in order. -/
def all : List Char → List Term
  | [] => []
  | c :: rest =>
    match read (c :: rest) with
    | some (term, _) => term :: all rest
    | none => all rest

/-! ## Value -/

/-- The digits of a term, before and after the point. -/
def digits (term : Term) : List Char := term.whole ++ term.fraction.getD []

/-- The signed amount, if all digits are ASCII digits. -/
def amount? (term : Term) : Option Single :=
  if term.digits.all isAsciiDigit then
    let magnitude := Single.ofDecimal (.ofDigits false term.whole (term.fraction.getD []))
    some (if term.negative then -magnitude else magnitude)
  else none

/-- The yield and its signed amount. -/
def value? (term : Term) : Option (Yield × Single) :=
  term.amount?.map (term.yield, ·)

end Term

/-! ## Tokens -/

/-- The parts of a text between commas that a space follows. -/
def commaParts : List Char → List (List Char)
  | ',' :: ' ' :: rest => [] :: commaParts rest
  | c :: rest =>
    match commaParts rest with
    | [] => [[c]]
    | part :: others => (c :: part) :: others
  | [] => [[]]

namespace Yields

/-- The terms of a token: a text that is nothing but terms, joined by a comma and a
    space each. -/
def tokenTerms? (text : List Char) : Option (List Term) :=
  (commaParts text).mapM (Reader.readAll Term.read)

/-- **Token**: a text that is nothing but terms joined by commas. -/
def isToken (text : String) : Bool := (tokenTerms? text.toList).isSome

/-- **Yields of a text**: the amounts of all its terms, added in order. A term
    whose amount is no number is passed over. -/
def ofText (text : String) : Yields :=
  none.addAll ((Term.all text.toList).filterMap Term.value?)

end Yields

end EffectText
