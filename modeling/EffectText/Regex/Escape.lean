import EffectText.Regex.Scope
import EffectText.Data.Json
import EffectText.Text.Property

/-! # Escapes in patterns

    A backslash gives the characters after it another meaning: a character that would
    mean something else, a code point, a class of characters, or an assertion.
-/

namespace EffectText

open Text

/-- **Sign**: what one character or one escape of a pattern stands for. -/
inductive PatternSign where
  /-- A character. It may be written as a byte. -/
  | literal (c : Char) (asByte : Bool)
  /-- A character of a set. -/
  | oneOf (set : CodeRanges)
  | assertion (assertion : Assertion)
  deriving DecidableEq, Repr

namespace PatternSign

open PatternReader

/-! ## Code points -/

/-- A hexadecimal digit, and what means nothing after it. -/
def hexDigit : PatternReader Char := do
  let c ← take
  if (Json.hexValue? c).isSome then return c else failure

/-- So many hexadecimal digits. -/
def hexDigits (count : Nat) : PatternReader (List Char) :=
  (List.replicate count hexDigit).mapM id

/-- Hexadecimal digits up to a closing brace. -/
def hexBraced : Nat → PatternReader (List Char)
  | 0 => failure
  | bound + 1 => do
    if (← peek) = some '\x7d' then
      let _ ← take
      return []
    return (← hexDigit) :: (← hexBraced bound)

/-- A code point in hexadecimal digits: as many as the letter says, or any number of
    them in braces. -/
def code (count : Nat) : PatternReader PatternSign := do
  let _ ← take
  let braced := (← peek) = some '\x7b'
  let digits ←
    if braced then do
      let _ ← take
      hexBraced (← bound)
    else hexDigits count
  match Json.hexNumber? digits with
  | some n =>
    if digits.isEmpty || !n.isValidChar then failure
    return .literal (Char.ofNat n) (!braced && count == 2)
  | none => failure

/-! ## Classes -/

/-- The characters that the letters of digits, blanks and words stand for. -/
def letterClass? (unicode : Bool) (letter : Char) : Option CodeRanges :=
  match letter with
  | 'd' => some (if unicode then Category.decimalNumberRanges else [(0x30, 0x39)])
  | 's' =>
    some (if unicode then Property.whiteSpaceRanges else [(0x09, 0x0D), (0x20, 0x20)])
  | 'w' =>
    some (if unicode then Property.wordRanges
      else [(0x30, 0x39), (0x41, 0x5A), (0x5F, 0x5F), (0x61, 0x7A)])
  | _ => none

/-- A class of one letter. A capital one stands for the opposite. -/
def letterClass : PatternReader PatternSign := do
  let letter ← Reader.next
  let unicode := (← flags).unicode
  match letterClass? unicode letter.toLower with
  | none => failure
  | some set =>
    if letter == letter.toLower then return .oneOf set
    else if unicode then return .oneOf set.complement
    else failure

/-- The parts of a text before and after a mark in it, if it has the mark. -/
def splitAt? (mark : List Char) : List Char → Option (List Char × List Char)
  | [] => none
  | c :: rest =>
    if mark.isPrefixOf (c :: rest) then some ([], (c :: rest).drop mark.length)
    else (splitAt? mark rest).map fun (before, after) => (c :: before, after)

/-- The set of a property in braces, and whether the opposite is meant: a name alone,
    or a name and a value. -/
def property? (body : List Char) : Option (CodeRanges × Bool) :=
  let withValue (parts : List Char × List Char) : Option CodeRanges :=
    Property.ofValue? (String.ofList parts.1) (String.ofList parts.2)
  match splitAt? ['!', '='] body with
  | some parts => (withValue parts).map (·, true)
  | none =>
    match splitAt? [':'] body, splitAt? ['='] body with
    | some parts, _ => (withValue parts).map (·, false)
    | none, some parts => (withValue parts).map (·, false)
    | none, none => (Property.ofName? (String.ofList body)).map (·, false)

/-- The characters up to a closing brace. -/
def braced : Nat → PatternReader (List Char)
  | 0 => failure
  | bound + 1 => do
    if (← peek) = some '\x7d' then
      let _ ← Reader.next
      return []
    return (← take) :: (← braced bound)

/-- A class of a property of Unicode: one letter, or a name in braces. -/
def propertyClass : PatternReader PatternSign := do
  let flags ← flags
  if !flags.unicode then failure
  let opposite := (← take) == 'P'
  let first ← take
  if first == '\\' then failure
  let body ← if first == '\x7b' then braced (← bound) else pure [first]
  match property? body with
  | none => failure
  | some (set, unlike) =>
    match flags.closed (opposite != unlike) set with
    | some set => return .oneOf set
    | none => failure

/-! ## Assertions -/

/-- A test as to words under the flags. -/
def wordSign (test : WordTest) : PatternReader PatternSign := do
  let unicode := (← flags).unicode
  return .assertion (.word test ((letterClass? unicode 'w').getD []))

/-- The test of a name. -/
def WordTest.ofName? (name : String) : Option WordTest :=
  match name with
  | "start" => some .start
  | "end" => some .finish
  | "start-half" => some .startHalf
  | "end-half" => some .finishHalf
  | _ => none

/-- A character of the name of a test. -/
def isTestLetter (c : Char) : Bool := c.isAlpha || c == '-'

/-- The letters of the name of a test. -/
def testName : Nat → PatternReader (List Char)
  | 0 => return []
  | bound + 1 => do
    match ← peek with
    | some c => if isTestLetter c then return (← take) :: (← testName bound) else return []
    | none => return []

/-- What may follow the letter of the boundary of a word: the name of a test in braces.
    Other braces stay where they are. -/
def boundaryTest : PatternReader WordTest := do
  if (← peek) ≠ some '\x7b' then return .boundary
  let rest : List Char ← (get : Reader (List Char))
  let _ ← take
  match ← peek with
  | none => failure
  | some c =>
    if isTestLetter c then
      let name ← testName (← bound)
      if (← Reader.next) ≠ '\x7d' then failure
      match WordTest.ofName? (String.ofList name) with
      | some test => return test
      | none => failure
    else
      (set rest : Reader Unit)
      return .boundary

/-! ## All escapes -/

/-- The character of a one-letter escape. -/
def control? (letter : Char) : Option Char :=
  match letter with
  | 'a' => some '\x07'
  | 'f' => some '\x0c'
  | 'n' => some '\n'
  | 'r' => some '\r'
  | 't' => some '\t'
  | 'v' => some '\x0b'
  | _ => none

/-- An escape, after its backslash. -/
def escape : PatternReader PatternSign := do
  let some c ← peek | failure
  match c with
  | 'x' => code 2
  | 'u' => code 4
  | 'U' => code 8
  | 'p' | 'P' => propertyClass
  | 'd' | 'D' | 's' | 'S' | 'w' | 'W' => letterClass
  | _ => do
    let _ ← Reader.next
    match c with
    | 'A' => return .assertion .textStart
    | 'z' => return .assertion .textEnd
    | 'b' => wordSign (← boundaryTest)
    | 'B' => wordSign .noBoundary
    | '<' => wordSign .start
    | '>' => wordSign .finish
    | _ =>
      match control? c with
      | some c => return .literal c false
      | none =>
        -- digits would refer back to groups, and other letters mean nothing
        if 0x80 ≤ c.toNat || c.isAlphanum then failure
        return .literal c false

end PatternSign

end EffectText
