/-! # Readers

    A **reader** takes characters from the front of a text. It gives a value and
    the rest of the text, or it fails and gives nothing.

    Readers compose as a state monad over the rest. Choice is `<|>`: the second
    reader starts where the first one did. Repetition is bounded by the rest itself:
    there are no more repetitions than characters, so every reader is total.
-/

namespace EffectText

/-- **Reader**: a value and the rest of the text, or failure. -/
abbrev Reader := StateT (List Char) Option

namespace Reader

/-! ## One character -/

/-- The next character, left where it is. -/
def peek : Reader (Option Char) := fun s => some (s.head?, s)

/-- Takes the next character. -/
def next : Reader Char
  | [] => none
  | c :: rest => some (c, rest)

/-- Takes the next character if it satisfies `p`. -/
def satisfy (p : Char → Bool) : Reader Char
  | [] => none
  | c :: rest => if p c then some (c, rest) else none

/-- Takes the character `c`. -/
def char (c : Char) : Reader Unit := do
  let _ ← satisfy (· == c)

/-- Succeeds at the end of the text only. -/
def atEnd : Reader Unit
  | [] => some ((), [])
  | _ => none

/-! ## Runs of characters -/

/-- Takes the longest run of characters that satisfy `p`. -/
def span (p : Char → Bool) : Reader (List Char) :=
  fun s => some (s.takeWhile p, s.dropWhile p)

/-- Takes the longest run of characters that satisfy `p`, which has at least one. -/
def spanOne (p : Char → Bool) : Reader (List Char) := do
  let run ← span p
  if run.isEmpty then failure else pure run

/-- Skips the longest run of characters that satisfy `p`. -/
def skip (p : Char → Bool) : Reader Unit := fun s => some ((), s.dropWhile p)

/-- Takes exactly these characters. -/
def exactly : List Char → Reader Unit
  | [] => pure ()
  | c :: rest => do char c; exactly rest

/-- Takes exactly this text. -/
def text (s : String) : Reader Unit := exactly s.toList

/-! ## Choice and repetition -/

/-- Reads with `p` if it succeeds; otherwise takes nothing. -/
def optional (p : Reader α) : Reader (Option α) := some <$> p <|> pure none

/-- Whether the text goes on with something that `p` reads. Takes nothing. -/
def looksAt (p : Reader α) : Reader Bool := fun s => some ((p s).isSome, s)

/-- Reads with `p`, but takes nothing. -/
def ahead (p : Reader α) : Reader α := fun s => (p s).map fun (a, _) => (a, s)

/-- Reads with `p` as long as it succeeds, at most once for each element of `bound`. -/
def manyWithin (p : Reader α) : List Char → Reader (List α)
  | [] => pure []
  | _ :: bound => (do return (← p) :: (← manyWithin p bound)) <|> pure []

/-- Reads with `p` as often as it succeeds. A reader that takes something each
    time cannot succeed more often than there are characters. -/
def many (p : Reader α) : Reader (List α) := fun s => manyWithin p s s

/-- Items between commas up to the character `close`, which is taken. `blank`
    reads what may stand around items and commas, and `trailing` tells whether a
    comma may follow the last item. There are at most as many items as elements of
    the bound. -/
def itemsWithin (blank : Reader Unit) (item : Reader α) (close : Char) (trailing : Bool) :
    List Char → Reader (List α)
  | [] => failure
  | _ :: bound => do
    blank
    let first ← item
    blank
    let c ← next
    if c = close then return [first]
    if c ≠ ',' then failure
    blank
    if trailing && (← peek) = some close then
      char close
      return [first]
    return first :: (← itemsWithin blank item close trailing bound)

/-- Items between commas up to the character `close`, which is taken. There may be
    none at all. -/
def items (blank : Reader Unit) (item : Reader α) (close : Char) (trailing : Bool) :
    Reader (List α) := do
  blank
  if (← peek) = some close then
    char close
    return []
  itemsWithin blank item close trailing (← get)

/-! ## Whole texts -/

/-- Reads a whole text, to its end. -/
def readAll (p : Reader α) (s : List Char) : Option α :=
  match p s with
  | some (a, []) => some a
  | _ => none

end Reader

end EffectText
