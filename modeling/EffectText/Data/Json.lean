import EffectText.Number.Reading
import EffectText.Number.Shortest

/-! # JSON

    Values, a reader and two printers.

    * **Numbers** written as integers are kept as integers if they fit in sixty-four
      bits; all others, `-0` among them, are double-precision numbers.
    * **Objects** keep their members in order, repeated names included.
    * **Text** must be well formed: an escape that names one half of a surrogate
      pair alone is refused, and so is a control character.
    * **Nesting** is bounded (`Json.maxDepth`).
-/

namespace EffectText

open Text

/-- A JSON value. -/
inductive Json where
  | null
  | bool (b : Bool)
  /-- A number without point and power of ten, other than minus zero. -/
  | integer (n : Int)
  /-- Any other number. -/
  | real (x : Double)
  | string (s : String)
  | array (items : List Json)
  | object (members : List (String × Json))
  deriving Inhabited, Repr

namespace Json

/-! ## Reading text -/

/-- The value of a hexadecimal digit. -/
def hexValue? (c : Char) : Option Nat :=
  if isAsciiDigit c then some (c.toNat - 0x30)
  else if 'a' ≤ c && c ≤ 'f' then some (c.toNat - 0x61 + 10)
  else if 'A' ≤ c && c ≤ 'F' then some (c.toNat - 0x41 + 10)
  else none

/-- The number that hexadecimal digits spell. -/
def hexNumber? (digits : List Char) : Option Nat :=
  digits.foldlM (fun n c => (hexValue? c).map (16 * n + ·)) 0

/-- The character of a one-letter escape. -/
def escaped? (c : Char) : Option Char :=
  match c with
  | '"' => some '"'
  | '\\' => some '\\'
  | '/' => some '/'
  | 'b' => some '\x08'
  | 'f' => some '\x0c'
  | 'n' => some '\n'
  | 'r' => some '\r'
  | 't' => some '\t'
  | _ => none

/-- The first half of a surrogate pair. -/
def isHighSurrogate (n : Nat) : Bool := 0xD800 ≤ n && n < 0xDC00

/-- The second half of a surrogate pair. -/
def isLowSurrogate (n : Nat) : Bool := 0xDC00 ≤ n && n < 0xE000

/-- The rest of a text after its opening quote: its characters, and what follows
    the closing quote. -/
def textBody : List Char → Option (List Char × List Char)
  | [] => none
  | '"' :: rest => some ([], rest)
  | '\\' :: 'u' :: a :: b :: c :: d :: rest =>
    match hexNumber? [a, b, c, d] with
    | none => none
    | some n =>
      if isLowSurrogate n then none
      else if isHighSurrogate n then
        match rest with
        | '\\' :: 'u' :: e :: f :: g :: h :: after =>
          match hexNumber? [e, f, g, h] with
          | none => none
          | some m =>
            if isLowSurrogate m then
              let code := 0x10000 + (n - 0xD800) * 0x400 + (m - 0xDC00)
              (textBody after).map fun (s, after) => (Char.ofNat code :: s, after)
            else none
        | _ => none
      else (textBody rest).map fun (s, after) => (Char.ofNat n :: s, after)
  | '\\' :: c :: rest =>
    match escaped? c with
    | none => none
    | some c => (textBody rest).map fun (s, after) => (c :: s, after)
  | c :: rest =>
    if c.toNat < 0x20 || c = '\\' then none
    else (textBody rest).map fun (s, after) => (c :: s, after)

/-- Passes over the rest of a text after its opening quote. Escapes need only have
    the right shape: halves of surrogate pairs may stand alone. -/
def skipTextBody : List Char → Option (List Char)
  | [] => none
  | '"' :: rest => some rest
  | '\\' :: 'u' :: a :: b :: c :: d :: rest =>
    if (hexNumber? [a, b, c, d]).isSome then skipTextBody rest else none
  | '\\' :: c :: rest => if (escaped? c).isSome then skipTextBody rest else none
  | c :: rest => if c.toNat < 0x20 || c = '\\' then none else skipTextBody rest

/-- A text with its quotes. -/
def textReader : Reader String := do
  Reader.char '"'
  let body : Reader (List Char) := textBody
  return String.ofList (← body)

/-- Passes over a text with its quotes. -/
def skipText : Reader Unit := do
  Reader.char '"'
  let body : Reader Unit := fun s => (skipTextBody s).map ((), ·)
  body

/-! ## Reading values -/

/-- Blanks between the parts of a value. -/
def blank : Reader Unit :=
  Reader.skip fun c => c == ' ' || c == '\t' || c == '\n' || c == '\r'

/-- The digits before the point: a zero alone, or digits that start with another
    one. -/
def wholeDigits : Reader (List Char) := do
  let digits ← Reader.spanOne isAsciiDigit
  if digits.head? = some '0' && digits.length > 1 then failure
  return digits

/-- **Numeral**: the parts of a number as it is written. -/
structure Numeral where
  negative : Bool
  /-- The digits before the point. -/
  whole : List Char
  /-- The digits after the point, if there is one. -/
  fraction : Option (List Char)
  /-- The power of ten, if there is one. -/
  power : Option Int
  deriving DecidableEq, Repr

/-- Reads the parts of a number. -/
def numeral : Reader Numeral := do
  let minus ← Reader.optional (Reader.char '-')
  let whole ← wholeDigits
  let fraction ← Reader.optional (do Reader.char '.'; Reader.spanOne isAsciiDigit)
  let power ← Reader.optional Reader.power
  return { negative := minus.isSome, whole, fraction, power }

/-- The integer of a numeral, if it is written as one and fits in sixty-four bits,
    with a sign of its own if it is negative. Minus zero is none. -/
def Numeral.integer? (numeral : Numeral) : Option Int :=
  if numeral.fraction.isSome || numeral.power.isSome then none
  else
    let n := Decimal.natFrom 0 numeral.whole
    if numeral.negative then
      if 0 < n && n ≤ Nat.pow 2 63 then some (-(n : Int)) else none
    else if n < Nat.pow 2 64 then some n
    else none

/-- The value of a numeral. A number too great for double precision has none. -/
def Numeral.value? (numeral : Numeral) : Option Json :=
  match numeral.integer? with
  | some n => some (.integer n)
  | none =>
    (Double.ofDigits? numeral.negative numeral.whole (numeral.fraction.getD [])
      (numeral.power.getD 0)).map .real

/-- A number. -/
def number : Reader Json := do
  match (← numeral).value? with
  | some value => return value
  | none => failure

/-- Arrays and objects may stand in each other up to one less than this. -/
def maxDepth : Nat := 128

/-- A member of an object, whose value `value` reads. -/
def member (value : Reader α) : Reader (String × α) := do
  let name ← textReader
  blank
  Reader.char ':'
  blank
  return (name, ← value)

/-- A value in which arrays and objects are nested less than `depth` deep. -/
def valueWithin : Nat → Reader Json
  | 0 => failure
  | depth + 1 => do
    match ← Reader.peek with
    | some '"' => return .string (← textReader)
    | some '[' =>
      if depth = 0 then failure
      Reader.char '['
      return .array (← Reader.items blank (valueWithin depth) ']' false)
    | some '\x7b' =>
      if depth = 0 then failure
      Reader.char '\x7b'
      return .object (← Reader.items blank (member (valueWithin depth)) '\x7d' false)
    | some 'n' => Reader.text "null"; return .null
    | some 't' => Reader.text "true"; return .bool true
    | some 'f' => Reader.text "false"; return .bool false
    | _ => number

/-- A whole text that holds one value. -/
def ofText? (s : String) : Option Json :=
  Reader.readAll (do blank; let v ← valueWithin maxDepth; blank; return v) s.toList

/-- Passes over a value of any depth. The bound is on its depth, which is less
    than its length. -/
def skipWithin : Nat → Reader Unit
  | 0 => failure
  | bound + 1 => do
    match ← Reader.peek with
    | some '"' => skipText
    | some '[' =>
      Reader.char '['
      let _ ← Reader.items blank (skipWithin bound) ']' false
    | some '\x7b' =>
      Reader.char '\x7b'
      let skipMember : Reader Unit := do
        skipText
        blank
        Reader.char ':'
        blank
        skipWithin bound
      let _ ← Reader.items blank skipMember '\x7d' false
    | some 'n' => Reader.text "null"
    | some 't' => Reader.text "true"
    | some 'f' => Reader.text "false"
    | _ => let _ ← numeral

/-- Passes over a value. -/
def skipValue : Reader Unit := fun s => skipWithin s.length s

/-! ## Looking into values -/

/-- The value of the last member of the name, if the value is an object that has
    one. -/
def member? (json : Json) (name : String) : Option Json :=
  match json with
  | .object members => (members.reverse.find? (·.1 = name)).map (·.2)
  | _ => none

/-! ## Printing -/

/-- One character inside a text. -/
def printChar (c : Char) : List Char :=
  if c = '"' then ['\\', '"']
  else if c = '\\' then ['\\', '\\']
  else if c = '\x08' then ['\\', 'b']
  else if c = '\x0c' then ['\\', 'f']
  else if c = '\n' then ['\\', 'n']
  else if c = '\r' then ['\\', 'r']
  else if c = '\t' then ['\\', 't']
  else if c.toNat < 0x20 then
    let digits := Nat.toDigits 16 c.toNat
    ['\\', 'u'] ++ List.replicate (4 - digits.length) '0' ++ digits
  else [c]

/-- A text with its quotes. -/
def printText (s : String) : String :=
  String.ofList ('"' :: (s.toList.flatMap printChar ++ ['"']))

mutual

/-- The text of a value without any blanks. -/
def compact : Json → String
  | .null => "null"
  | .bool b => if b then "true" else "false"
  | .integer n => toString n
  | .real x => x.toText
  | .string s => printText s
  | .array items => "[" ++ ",".intercalate (compactItems items) ++ "]"
  | .object members => "\x7b" ++ ",".intercalate (compactMembers members) ++ "\x7d"

/-- The texts of values without any blanks. -/
def compactItems : List Json → List String
  | [] => []
  | item :: rest => compact item :: compactItems rest

/-- The texts of members without any blanks. -/
def compactMembers : List (String × Json) → List String
  | [] => []
  | (name, value) :: rest => (printText name ++ ":" ++ compact value) :: compactMembers rest

end

/-- A line break and the indent of a nesting depth. -/
def lineBreak (depth : Nat) : String :=
  "\n" ++ String.ofList (List.replicate (2 * depth) ' ')

/-- Texts on lines of their own inside brackets; empty brackets stay on one line. -/
def onLines (depth : Nat) (opening closing : String) (texts : List String) : String :=
  if texts.isEmpty then opening ++ closing
  else
    opening ++ lineBreak (depth + 1) ++ ("," ++ lineBreak (depth + 1)).intercalate texts ++
      lineBreak depth ++ closing

mutual

/-- The text of a value over several lines, each level indented by two more
    spaces. -/
def prettyAt : Json → Nat → String
  | .null, _ => "null"
  | .bool b, _ => if b then "true" else "false"
  | .integer n, _ => toString n
  | .real x, _ => x.toText
  | .string s, _ => printText s
  | .array items, depth => onLines depth "[" "]" (prettyItems items (depth + 1))
  | .object members, depth =>
    onLines depth "\x7b" "\x7d" (prettyMembers members (depth + 1))

/-- The texts of values over several lines. -/
def prettyItems : List Json → Nat → List String
  | [], _ => []
  | item :: rest, depth => prettyAt item depth :: prettyItems rest depth

/-- The texts of members over several lines. -/
def prettyMembers : List (String × Json) → Nat → List String
  | [], _ => []
  | (name, value) :: rest, depth =>
    (printText name ++ ": " ++ prettyAt value depth) :: prettyMembers rest depth

end

/-- The text of a value over several lines. -/
def pretty (json : Json) : String := prettyAt json 0

end Json

end EffectText
