import EffectText.Regex.Bracket

/-! # Reading patterns

    A **pattern** writes a regular expression.

    * A point stands for any character, but for the end of a line only if a flag says so.
    * `^` and `$` stand for the ends of the text, or of lines.
    * `?`, `*`, `+` and counts in braces repeat what is before them.
    * `|` separates choices, and parentheses group. A group may have a name or flags.

    A pattern may not be nested too deep, and its expression may not be too large.
-/

namespace EffectText

open Text

/-! ## Parts of a pattern -/

/-- **Item** of a pattern: an expression, and whether it may be repeated. -/
structure PatternItem where
  regex : Nested Regex
  repeatable : Bool := true
  deriving DecidableEq, Repr

namespace PatternItem

open PatternReader

/-- An item without parts. -/
def leaf (regex : Regex) : PatternItem := { regex := { value := regex, depth := 0 } }

/-- The item repeated. -/
def repeated (item : PatternItem) (least : Nat) (most : Option Nat) : PatternItem :=
  { regex := { value := .repeat item.regex.value least most, depth := item.regex.depth + 1 } }

/-- The expression of items one after another. -/
def sequence (items : List PatternItem) : Nested Regex :=
  { value := .seqAll (items.map (·.regex.value))
    depth := joinedDepth (items.map (·.regex.depth)) }

/-- The expression of one or more choices. -/
def choice (first : Nested Regex) (others : List (Nested Regex)) : Nested Regex :=
  { value := .altAll first.value (others.map (·.value))
    depth := joinedDepth ((first :: others).map (·.depth)) }

/-! ## Signs -/

/-- What ends a line under the flags. -/
def lineEnds (flags : Flags) : CodeRanges :=
  if flags.returns then [(0x0A, 0x0A), (0x0D, 0x0D)] else [(0x0A, 0x0A)]

/-- The item of a point. -/
def point (flags : Flags) : Option PatternItem :=
  if !flags.unicode then none
  else if flags.pointIsAll then some (leaf (.chars [(0, CodeRanges.greatest)]))
  else some (leaf (.chars (lineEnds flags).complement))

/-- The item of a sign. -/
def ofSign (flags : Flags) (sign : PatternSign) : Option PatternItem :=
  match sign with
  | .literal c asByte =>
    if !flags.unicode && asByte && 0x80 ≤ c.toNat then none
    else some (leaf (.chars (flags.single c)))
  | .oneOf set => some (leaf (.chars set))
  | .assertion assertion => some (leaf (.assert assertion))

/-- A character, an escape, a point or an end of a line. -/
def simple : PatternReader PatternItem := do
  let flags ← flags
  let item ← match ← Reader.next with
    | '\\' => do pure (ofSign flags (← PatternSign.escape))
    | '.' => pure (point flags)
    | '^' =>
      pure (some (leaf (.assert (if flags.multiLine then .lineStart flags.returns else .textStart))))
    | '$' =>
      pure (some (leaf (.assert (if flags.multiLine then .lineEnd flags.returns else .textEnd))))
    | c => pure (ofSign flags (.literal c false))
  match item with
  | some item => return item
  | none => failure

/-! ## Repetitions -/

/-- Passes over blanks. -/
def blanks : PatternReader Unit := Reader.skip isBlank

/-- Digits, with blanks between them only where those mean nothing. -/
def digits : Nat → PatternReader (List Char)
  | 0 => return []
  | bound + 1 => do
    match ← peek with
    | some c => if isAsciiDigit c then return (← take) :: (← digits bound) else return []
    | none => return []

/-- A count, with blanks at either side. It has to fit in thirty-two bits. -/
def count : PatternReader Nat := do
  blanks
  let digits ← digits (← bound)
  space
  blanks
  space
  let n := Decimal.natFrom 0 digits
  if digits.isEmpty || Nat.pow 2 32 ≤ n then failure else return n

/-- Counts in braces: one for both, the least alone, or both. -/
def counts : PatternReader (Nat × Option Nat) := do
  let _ ← take
  let least ← count
  let most ←
    if (← peek) = some ',' then do
      let _ ← take
      if (← peek) = some '\x7d' then pure none else some <$> count
    else pure (some least)
  if (← take) ≠ '\x7d' || most.any (· < least) then failure
  return (least, most)

/-- How often what is before is repeated. A question mark may follow, which makes the
    repetition short. -/
def repetition (mark : Char) : PatternReader (Nat × Option Nat) := do
  let times ←
    match mark with
    | '?' => do let _ ← Reader.next; pure (0, some 1)
    | '*' => do let _ ← Reader.next; pure (0, none)
    | '+' => do let _ ← Reader.next; pure (1, none)
    | _ => counts
  let _ ← takeText "?"
  return times

/-- A mark of a repetition. -/
def isRepetitionMark (c : Char) : Bool := c == '?' || c == '*' || c == '+' || c == '\x7b'

/-! ## Groups -/

/-- A character that the name of a group may have. -/
def isNameChar (first : Bool) (c : Char) : Bool :=
  c == '_' || Property.alphabeticRanges.contains c.toNat ||
    (!first && (Category.numberRanges.contains c.toNat || c == '.' || c == '[' || c == ']'))

/-- The name of a group, up to its closing angle bracket. No other group may have it. -/
def groupName : PatternReader Unit := do
  let name ← (Reader.span (· != '>') : Reader (List Char))
  Reader.char '>'
  let good :=
    match name with
    | [] => false
    | first :: rest => isNameChar true first && rest.all (isNameChar false)
  let text := String.ofList name
  if !good || (← get).names.contains text then failure
  modify fun scope => { scope with names := text :: scope.names }

/-- Flags that a pattern switches: letters to switch on and, after a hyphen, letters to
    switch off, each at most once. -/
def flagsOf? (start : Flags) (letters : List Char) : Option Flags :=
  if letters.getLast? = some '-' || !letters.Nodup then none
  else
    let on := letters.takeWhile (· != '-')
    let off := (letters.dropWhile (· != '-')).drop 1
    let switched := on.foldlM (fun flags letter => flags.set? letter true) start
    switched.bind fun flags => off.foldlM (fun flags letter => flags.set? letter false) flags

/-- What a group starts with. -/
inductive GroupStart where
  /-- A group whose place is kept. -/
  | capture
  /-- A group that is read under flags. -/
  | group (flags : Flags)
  /-- There is no group: the flags hold from here on. -/
  | switch (flags : Flags)

/-- The start of a group, from its parenthesis. -/
def groupStart : PatternReader GroupStart := do
  let _ ← take
  let flags ← flags
  if (← takeText "?P<") || (← takeText "?<") then
    groupName
    return .capture
  if ← takeText "?" then
    let letters ← (Reader.span fun c => c != ':' && c != ')' : Reader (List Char))
    let last ← Reader.next
    match flagsOf? flags letters with
    | none => failure
    | some switched =>
      if last == ':' then return .group switched
      else if letters.isEmpty then failure
      else return .switch switched
  return .capture

/-! ## Patterns -/

/-- The rest of items one after another, up to a choice or the end of the group. `items`
    have been read, the last one first, and `group` reads a group. -/
def itemsFrom (group : PatternReader PatternItem) :
    Nat → List PatternItem → PatternReader (List PatternItem)
  | 0, _ => failure
  | bound + 1, items => do
    space
    match ← peek with
    | none => return items.reverse
    | some c =>
      if c == ')' || c == '|' then return items.reverse
      else if c == '(' then itemsFrom group bound ((← group) :: items)
      else if c == '[' then
        let set ← PatternClass.reader (← PatternReader.bound)
        let item : PatternItem :=
          { regex := { value := .chars set.value, depth := set.depth } }
        itemsFrom group bound (item :: items)
      else if isRepetitionMark c then
        match items with
        | [] => failure
        | last :: before =>
          if !last.repeatable then failure
          let (least, most) ← repetition c
          itemsFrom group bound (last.repeated least most :: before)
      else itemsFrom group bound ((← simple) :: items)

/-- Choices, up to the end of the group. -/
def choices (group : PatternReader PatternItem) : Nat → PatternReader (List (Nested Regex))
  | 0 => failure
  | bound + 1 => do
    let first := sequence (← itemsFrom group (← PatternReader.bound) [])
    if ← takeText "|" then return first :: (← choices group bound)
    return [first]

/-- What is in a group, up to its end. -/
def contents (group : PatternReader PatternItem) : PatternReader (Nested Regex) := do
  match ← choices group (← PatternReader.bound) with
  | [] => failure
  | first :: others => return choice first others

/-- A group, or flags that hold from here on. Groups are nested at most as deep as the
    bound. -/
def group : Nat → PatternReader PatternItem
  | 0 => failure
  | bound + 1 => do
    let outer ← flags
    let inside (wrap : Regex → Regex) : PatternReader PatternItem := do
      let inner ← contents (group bound)
      Reader.char ')'
      setFlags outer
      return { regex := { value := wrap inner.value, depth := inner.depth + 1 } }
    match ← groupStart with
    | .capture => inside .capture
    | .group flags =>
      setFlags flags
      inside id
    | .switch flags =>
      setFlags flags
      return { leaf .empty with repeatable := false }

end PatternItem

/-! ## Whole patterns -/

/-- Why a pattern writes no regular expression. -/
inductive PatternError where
  /-- It breaks a rule of the notation. -/
  | malformed
  /-- Its expression is larger than the limit. -/
  | tooLarge
  deriving DecidableEq, Repr

namespace Regex

/-- Parts of a pattern may be nested this deep. -/
def maxDepth : Nat := 250

/-- An expression may be this large. -/
def maxSize : Nat := 10485760

/-- **Reading** a pattern. -/
def ofText (text : String) : Except PatternError Regex :=
  let chars := text.toList
  let reader := (PatternItem.contents (PatternItem.group chars.length)).run' {}
  match Reader.readAll reader chars with
  | none => .error .malformed
  | some nested =>
    if maxDepth < nested.depth then .error .malformed
    else if maxSize < nested.value.size then .error .tooLarge
    else .ok nested.value

end Regex

end EffectText
