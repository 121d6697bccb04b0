import EffectText.Data.Ron.Basic

/-! # RON values without parts

    * **Strings** stand between double quotes, with escapes or raw.
    * **Bytes** are marked by a `b`, single ones and those between double quotes.
    * **Characters** stand between single quotes.
    * **Numbers** are integers to the bases two, eight, ten and sixteen, and floats.
      The kind of number may be written after decimal and binary digits. Then it must
      be able to hold the number; other integers must fit in sixty-four bits.
-/

namespace EffectText.Ron

open Text

/-! ## Strings -/

/-- Two hexadecimal digits. -/
def hexByte : Reader UInt8 := do
  match Json.hexNumber? [← Reader.next, ← Reader.next] with
  | some n => return UInt8.ofNat n
  | none => failure

/-- The character that bytes spell, if they spell one. -/
def charOfBytes? (bytes : List UInt8) : Option Char :=
  (String.fromUTF8? ⟨bytes.toArray⟩).bind (·.toList.head?)

/-- A character of which each byte is escaped. At most `more` bytes follow those
    that have been read. -/
def escapedBytes : Nat → List UInt8 → Reader Char
  | 0, _ => failure
  | more + 1, bytes => do
    Reader.text "\\x"
    let bytes := bytes ++ [← hexByte]
    match charOfBytes? bytes with
    | some c => return c
    | none => escapedBytes more bytes

/-- A character that is escaped by its code point. -/
def escapedCode : Reader Char := do
  Reader.text "\\u\x7b"
  let digits ← Reader.span (· != '\x7d')
  Reader.char '\x7d'
  if digits.isEmpty || digits.length > 6 then failure
  match Json.hexNumber? digits with
  | some n => if n.isValidChar then return Char.ofNat n else failure
  | none => failure

/-- The character of a one-letter escape. -/
def escaped? (c : Char) : Option Char :=
  match c with
  | '\x27' => some '\x27'
  | '"' => some '"'
  | '\\' => some '\\'
  | 'n' => some '\n'
  | 'r' => some '\r'
  | 't' => some '\t'
  | '0' => some '\x00'
  | _ => none

/-- A character that is escaped by one letter. -/
def escapedLetter : Reader Char := do
  Reader.char '\\'
  match escaped? (← Reader.next) with
  | some c => return c
  | none => failure

/-- A string with escapes. `wide` reads the escapes of more than one letter. -/
def escapedString (wide : Reader Char) : Reader String := do
  Reader.char '"'
  let plain := Reader.satisfy fun c => c != '"' && c != '\\'
  let body ← Reader.many (plain <|> escapedLetter <|> wide)
  Reader.char '"'
  return String.ofList body

/-- What precedes `ending` in a text, and what follows it. -/
def before? (ending : List Char) : List Char → Option (List Char × List Char)
  | [] => none
  | c :: rest =>
    if ending.isPrefixOf (c :: rest) then some ([], (c :: rest).drop ending.length)
    else (before? ending rest).map fun (body, after) => (c :: body, after)

/-- A raw string after its `r`: it ends at a quote with as many number signs as it
    starts with. -/
def rawString : Reader String := do
  let signs ← Reader.span (· == '#')
  Reader.char '"'
  let body : Reader (List Char) := before? ('"' :: signs)
  return String.ofList (← body)

/-- A string of any form. -/
def stringReader : Reader String :=
  escapedString (escapedBytes 4 [] <|> escapedCode) <|> (do Reader.char 'r'; rawString)

/-! ## Bytes and characters -/

/-- A byte that is escaped by its code. -/
def escapedByte : Reader Char := do
  Reader.text "\\x"
  return Char.ofNat (← hexByte).toNat

/-- A single byte. -/
def singleByte : Reader Unit := do
  Reader.text "b\x27"
  let plain := Reader.satisfy fun c => c != '\\' && c.toNat < 0x80
  let _ ← plain <|> escapedLetter <|> escapedByte
  Reader.char '\x27'

/-- As many bytes as there are between double quotes. -/
def byteString : Reader Unit := do
  Reader.char 'b'
  let escaped : Reader String := escapedString (escapedByte <|> escapedCode)
  let raw : Reader String := do
    Reader.char 'r'
    rawString
  let _ ← escaped <|> raw

/-- A single character between quotes. -/
def character : Reader Unit := do
  Reader.char '\x27'
  let plain := Reader.satisfy (· != '\\')
  let _ ← plain <|> escapedLetter <|> escapedBytes 1 [] <|> escapedCode
  Reader.char '\x27'

/-! ## Integers -/

/-- **Kind** of integer: its name, and the least and the greatest integer of it. -/
structure IntegerKind where
  name : String
  least : Int
  greatest : Int
  deriving DecidableEq, Repr

/-- The integers with a sign that fit in so many bits. -/
def IntegerKind.signed (bits : Nat) : IntegerKind :=
  { name := s!"i{bits}"
    least := -(Nat.pow 2 (bits - 1) : Int)
    greatest := (Nat.pow 2 (bits - 1) : Int) - 1 }

/-- The integers without a sign that fit in so many bits. -/
def IntegerKind.unsigned (bits : Nat) : IntegerKind :=
  { name := s!"u{bits}", least := 0, greatest := (Nat.pow 2 bits : Int) - 1 }

/-- Whether an integer is of a kind. -/
def IntegerKind.holds (kind : IntegerKind) (n : Int) : Bool :=
  kind.least ≤ n && n ≤ kind.greatest

/-- The kinds of integer that may be written after one. -/
def integerKinds : List IntegerKind :=
  [8, 16, 32, 64].map .signed ++ [8, 16, 32, 64].map .unsigned

/-- The name of a kind of integer. -/
def integerKind : Reader IntegerKind :=
  integerKinds.foldr (fun kind p => (do word kind.name; return kind) <|> p) failure

/-- The digit of a character to a base. -/
def digit? (base : Nat) (c : Char) : Option Nat := (Json.hexValue? c).filter (· < base)

/-- Digits to a base, with underscores after the first. -/
def digitsOf (base : Nat) : Reader Nat := do
  let first ← Reader.satisfy fun c => (digit? base c).isSome
  let more ← Reader.span fun c => (digit? base c).isSome || c == '_'
  return ((first :: more).filterMap (digit? base)).foldl (base * · + ·) 0

/-- A number with its sign. -/
def withSign (negative : Bool) (n : Nat) : Int := if negative then -(n : Int) else n

/-- An integer to another base than ten. -/
def basedInteger (negative : Bool) : Reader Unit := do
  let digits : Reader Nat :=
    (do Reader.text "0x"; digitsOf 16) <|> (do Reader.text "0o"; digitsOf 8) <|>
      (do Reader.text "0b"; digitsOf 2)
  let n := withSign negative (← digits)
  let kind := if negative then IntegerKind.signed 64 else IntegerKind.unsigned 64
  if !kind.holds n then failure

/-- An integer to the base two or ten with its kind after it. -/
def kindInteger (negative : Bool) : Reader Unit := do
  let digits : Reader Nat := (do Reader.text "0b"; digitsOf 2) <|> digitsOf 10
  let n := withSign negative (← digits)
  if !(← integerKind).holds n then failure

/-! ## Floats -/

/-- A character that a float is made of. -/
def isFloatChar (c : Char) : Bool :=
  isAsciiDigit c || c == 'e' || c == 'E' || c == '.' || c == '+' || c == '-' || c == '_'

/-- Whether every underscore has a digit or the letter of the power somewhere before
    it, and no point since. `allowed` tells whether one may come at the start. -/
def underscoresAllowed : Bool → List Char → Bool
  | _, [] => true
  | allowed, c :: rest =>
    if c == '_' then allowed && underscoresAllowed allowed rest
    else underscoresAllowed (c != '.' && (allowed || (c != '+' && c != '-'))) rest

/-- A decimal with its sign, which may have underscores. -/
def decimalFloat : Reader Unit := do
  let run ← Reader.span isFloatChar
  let digits := run.filter (· != '_')
  let decimal : Reader Decimal := do Reader.decimal (← Reader.sign)
  if !underscoresAllowed false run || (Reader.readAll decimal digits).isNone then failure

/-- The kind of a float, which may be left out. -/
def floatKind : Reader Unit := Reader.text "f32" <|> Reader.text "f64" <|> pure ()

/-- A float. -/
def float : Reader Unit := do
  let named : Reader Unit := do
    let _ ← Reader.sign
    Reader.text "inf" <|> Reader.text "NaN"
  decimalFloat <|> named
  floatKind

/-- A number. An integer with nothing after it is a float as well. -/
def number : Reader Unit := do
  let signed (p : Bool → Reader Unit) : Reader Unit := do p (← Reader.sign)
  signed kindInteger <|> signed basedInteger <|> float
  if ← Reader.looksAt (Reader.satisfy continuesIdentifier) then failure

end EffectText.Ron
