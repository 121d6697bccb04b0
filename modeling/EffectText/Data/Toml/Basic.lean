import EffectText.Data.Json

/-! # TOML values and how they are spelled

    The values of TOML 1.0 and readers for each spelling: strings in four kinds of
    quotes, integers to four bases, floats, dates and times, arrays, and keys.

    Integers must fit in sixty-four bits. Floats, dates and times are checked and
    kept as they are spelled.
-/

namespace EffectText

open Text

/-- A TOML value. -/
inductive Toml where
  | string (s : String)
  | integer (n : Int)
  | boolean (b : Bool)
  /-- A float, as it is spelled. -/
  | float (spelling : String)
  /-- A date, a time or both, as they are spelled. -/
  | dateTime (spelling : String)
  | array (items : List Toml)
  | table (entries : List (String × Toml))
  deriving Inhabited, Repr

namespace Toml

/-! ## Blanks, line ends and comments -/

/-- A blank inside a line. -/
def isLineBlank (c : Char) : Bool := c == ' ' || c == '\t'

/-- Blanks inside a line. -/
def lineBlanks : Reader Unit := Reader.skip isLineBlank

/-- The end of a line: a line feed, or a carriage return and a line feed. -/
def newline : Reader Unit := Reader.char '\n' <|> Reader.text "\r\n"

/-- A character that a comment may hold. -/
def isCommentChar (c : Char) : Bool :=
  c == '\t' || (0x20 ≤ c.toNat && c.toNat ≤ 0x7E) || 0x80 ≤ c.toNat

/-- A comment, up to the end of its line. -/
def comment : Reader Unit := do
  Reader.char '#'
  Reader.skip isCommentChar

/-- What may follow on a line: blanks, a comment, and the end of the line or text. -/
def restOfLine : Reader Unit := do
  lineBlanks
  let _ ← Reader.optional comment
  newline <|> Reader.atEnd

/-- What may stand between the items of an array: blanks, comments and line ends. -/
def arrayBlanks : Reader Unit := do
  let blank : Reader Unit := do
    let _ ← Reader.satisfy isLineBlank
  let _ ← Reader.many (blank <|> newline <|> (do comment; newline))

/-! ## Strings -/

/-- A character that stands for itself in every string, quotes and the backslash
    apart. -/
def isStringChar (c : Char) : Bool := isCommentChar c && c != '"' && c != '\\' && c != '\x27'

/-- A character that stands for itself between double quotes. -/
def isBasicChar (c : Char) : Bool := isStringChar c || c == '\x27'

/-- A character that stands for itself between single quotes. -/
def isLiteralChar (c : Char) : Bool := isStringChar c || c == '"' || c == '\\'

/-- The character of that code point, if there is one. -/
def charOf? (code : Nat) : Option Char :=
  if code.isValidChar then some (Char.ofNat code) else none

/-- Exactly `count` hexadecimal digits that spell a code point. -/
def codePoint (count : Nat) : Reader Char := do
  let digits ← (List.replicate count Reader.next).mapM id
  match (Json.hexNumber? digits).bind charOf? with
  | some c => return c
  | none => failure

/-- A character written with a backslash. -/
def escapedChar : Reader Char := do
  Reader.char '\\'
  match ← Reader.next with
  | 'b' => return '\x08'
  | 't' => return '\t'
  | 'n' => return '\n'
  | 'f' => return '\x0c'
  | 'r' => return '\r'
  | '"' => return '"'
  | '\\' => return '\\'
  | 'u' => codePoint 4
  | 'U' => codePoint 8
  | _ => failure

/-- A string on one line between double quotes. -/
def basicString : Reader String := do
  Reader.char '"'
  let body ← Reader.many (Reader.satisfy isBasicChar <|> escapedChar)
  Reader.char '"'
  return String.ofList body

/-- A string on one line between single quotes. -/
def literalString : Reader String := do
  Reader.char '\x27'
  let body ← Reader.span isLiteralChar
  Reader.char '\x27'
  return String.ofList body

/-- One or two quotes that do not end a string of several lines, because something
    else follows them. -/
def innerQuotes (quote : Char) : Reader (List Char) := fun s =>
  let run := s.takeWhile (· == quote)
  let rest := s.dropWhile (· == quote)
  if 1 ≤ run.length && run.length ≤ 2 && !rest.isEmpty then some (run, rest) else none

/-- The three quotes that end a string of several lines, after up to two that belong
    to it. -/
def closingQuotes (quote : Char) : Reader (List Char) := do
  let run ← Reader.span (· == quote)
  if 3 ≤ run.length && run.length ≤ 5 then return run.drop 3 else failure

/-- A backslash at the end of a line, with all blanks and line ends after it. -/
def foldedLine : Reader (List Char) := do
  Reader.char '\\'
  lineBlanks
  newline
  let blank : Reader Unit := do
    let _ ← Reader.satisfy isLineBlank
  let _ ← Reader.many (blank <|> newline)
  return []

/-- A string of several lines, between three quotes on either side. A line end right
    after the opening quotes does not count, and every other one is a line feed. -/
def longString (quote : Char) (piece : Reader (List Char)) : Reader String := do
  Reader.exactly [quote, quote, quote]
  let _ ← Reader.optional newline
  let lineEnd : Reader (List Char) := do
    newline
    return ['\n']
  let body ← Reader.many (piece <|> lineEnd <|> innerQuotes quote)
  let last ← closingQuotes quote
  return String.ofList (body.flatten ++ last)

/-- A string of several lines between double quotes. -/
def longBasicString : Reader String :=
  let one (p : Reader Char) : Reader (List Char) := do return [← p]
  longString '"' (foldedLine <|> one (Reader.satisfy isBasicChar) <|> one escapedChar)

/-- A string of several lines between single quotes. -/
def longLiteralString : Reader String :=
  longString '\x27' (Reader.spanOne isLiteralChar)

/-- A string in any kind of quotes. -/
def stringReader : Reader String :=
  longBasicString <|> basicString <|> longLiteralString <|> literalString

/-! ## Numbers -/

/-- Digits with single underscores between them. -/
def digitGroups (isDigit : Char → Bool) : Reader (List Char) := do
  let first ← Reader.spanOne isDigit
  let others ← Reader.many do
    Reader.char '_'
    Reader.spanOne isDigit
  return first ++ others.flatten

/-- The digits of a decimal integer: a zero alone, or digits that start with another
    one. -/
def decimalDigits : Reader (List Char) := do
  let digits ← digitGroups isAsciiDigit
  if digits.head? = some '0' && digits.length > 1 then failure
  return digits

/-- An integer that fits in sixty-four bits, sign included. -/
def isInt64 (n : Int) : Bool := -9223372036854775808 ≤ n && n ≤ 9223372036854775807

/-- An integer as a value, if it fits in sixty-four bits. -/
def boundedInteger (n : Int) : Reader Toml :=
  if isInt64 n then return .integer n else failure

/-- The value of a digit to a base of at most sixteen. -/
def digitValue? (base : Nat) (c : Char) : Option Nat :=
  (Json.hexValue? c).filter (· < base)

/-- An integer with a prefix that names its base. -/
def basedInteger (mark : String) (base : Nat) : Reader Toml := do
  Reader.text mark
  let digits ← digitGroups fun c => (digitValue? base c).isSome
  boundedInteger (digits.foldl (fun n c => base * n + (digitValue? base c).getD 0) 0)

/-- A decimal integer, with an optional sign. -/
def decimalInteger : Reader Toml := do
  let negative ← Reader.sign
  let n := Decimal.natFrom 0 (← decimalDigits)
  boundedInteger (if negative then -(n : Int) else n)

/-- An integer to any base. -/
def integerReader : Reader Toml :=
  basedInteger "0x" 16 <|> basedInteger "0o" 8 <|> basedInteger "0b" 2 <|> decimalInteger

/-- What `p` reads, as it is spelled. -/
def spelling (p : Reader α) : Reader String := fun s =>
  (p s).map fun (_, rest) => (String.ofList (s.take (s.length - rest.length)), rest)

/-- A float in digits: with a point, a power of ten, or both. A positive one must not
    be too great for double precision. -/
def digitFloat : Reader Unit := do
  let negative ← Reader.sign
  let whole ← decimalDigits
  let fraction ← Reader.optional do
    Reader.char '.'
    digitGroups isAsciiDigit
  let power ← Reader.optional do
    let _ ← Reader.satisfy fun c => c == 'e' || c == 'E'
    let below ← Reader.sign
    let n := Decimal.natFrom 0 (← digitGroups isAsciiDigit)
    return if below then -(n : Int) else (n : Int)
  if fraction.isNone && power.isNone then failure
  let value := (Decimal.ofDigits negative whole (fraction.getD [])).shift (power.getD 0)
  if !negative && BinaryFormat.double.limit ≤ BinaryFormat.double.rankOfDecimal value then
    failure

/-- A float in letters. -/
def namedFloat : Reader Unit := do
  let _ ← Reader.sign
  Reader.text "inf" <|> Reader.text "nan"

/-- A float. -/
def floatReader : Reader Toml := .float <$> spelling (digitFloat <|> namedFloat)

/-! ## Dates and times -/

/-- Exactly `count` digits, as a number. -/
def fixedDigits (count : Nat) : Reader Nat := do
  let digits ← (List.replicate count (Reader.satisfy isAsciiDigit)).mapM id
  return Decimal.natFrom 0 digits

/-- Exactly two digits that make a number within bounds. -/
def twoDigits (least greatest : Nat) : Reader Nat := do
  let n ← fixedDigits 2
  if least ≤ n && n ≤ greatest then return n else failure

/-- Whether a year has a leap day. -/
def isLeapYear (year : Nat) : Bool :=
  (year % 4 == 0 && year % 100 != 0) || year % 400 == 0

/-- The days of a month. -/
def daysOf (year month : Nat) : Nat :=
  if month = 2 then if isLeapYear year then 29 else 28
  else if month = 4 || month = 6 || month = 9 || month = 11 then 30
  else 31

/-- A date. -/
def date : Reader Unit := do
  let year ← fixedDigits 4
  Reader.char '-'
  let month ← twoDigits 1 12
  Reader.char '-'
  let _ ← twoDigits 1 (daysOf year month)

/-- A time of the day. -/
def time : Reader Unit := do
  let _ ← twoDigits 0 23
  Reader.char ':'
  let _ ← twoDigits 0 59
  Reader.char ':'
  let _ ← twoDigits 0 60
  let _ ← Reader.optional do
    Reader.char '.'
    Reader.spanOne isAsciiDigit

/-- A distance from universal time. -/
def timeOffset : Reader Unit := do
  let utc : Reader Unit := do
    let _ ← Reader.satisfy fun c => c == 'Z' || c == 'z'
  let distance : Reader Unit := do
    let _ ← Reader.satisfy fun c => c == '+' || c == '-'
    let _ ← twoDigits 0 23
    Reader.char ':'
    let _ ← twoDigits 0 59
  utc <|> distance

/-- A date, a time, or a date with a time. -/
def dateTimeReader : Reader Toml :=
  let dated : Reader Unit := do
    date
    let _ ← Reader.optional do
      let _ ← Reader.satisfy fun c => c == 'T' || c == 't' || c == ' '
      time
      let _ ← Reader.optional timeOffset
  .dateTime <$> spelling (dated <|> time)

/-! ## Keys -/

/-- A character of a key without quotes. -/
def isBareKeyChar (c : Char) : Bool :=
  ('a' ≤ c && c ≤ 'z') || ('A' ≤ c && c ≤ 'Z') || isAsciiDigit c || c == '-' || c == '_'

/-- One part of a key. -/
def keyPart : Reader String :=
  basicString <|> literalString <|> String.ofList <$> Reader.spanOne isBareKeyChar

/-- Keys and values may be nested less deep than this. -/
def maxDepth : Nat := 80

/-- A key: parts with points between them. -/
def keyPath : Reader (List String) := do
  lineBlanks
  let first ← keyPart
  lineBlanks
  let others ← Reader.many do
    Reader.char '.'
    lineBlanks
    let part ← keyPart
    lineBlanks
    return part
  let path := first :: others
  if path.length < maxDepth then return path else failure

end Toml

end EffectText
