import EffectText.Data.Ron.Scalar

/-! # RON documents

    A document is one value. Attributes in front of it switch extensions of the
    notation on.

    * Values may be nested in others up to a bound. The brackets of a list, a map, a
      structure or a tuple are one level, and so is each of the parts in them. An
      option is one level.
    * An **option** is the word `Some` with a value in parentheses. An extension allows
      to leave the parentheses out; another allows to leave out those of a structure or
      a tuple in the option.
-/

namespace EffectText.Ron

open Text

/-! ## Attributes -/

/-- An extension of the notation. -/
inductive Extension where
  /-- An option needs no parentheses. -/
  | implicitSome
  | unwrapNewtypes
  /-- What is in an option needs no parentheses of its own. -/
  | unwrapVariantNewtypes
  /-- Structures must have their names. -/
  | explicitStructNames
  deriving DecidableEq, Repr

/-- The extension of a name. -/
def Extension.ofName? (name : String) : Option Extension :=
  match name with
  | "implicit_some" => some .implicitSome
  | "unwrap_newtypes" => some .unwrapNewtypes
  | "unwrap_variant_newtypes" => some .unwrapVariantNewtypes
  | "explicit_struct_names" => some .explicitStructNames
  | _ => none

/-- The name of an extension. -/
def extensionName : Reader Extension := do
  match Extension.ofName? (← identifier) with
  | some extension => return extension
  | none => failure

/-- An attribute that switches extensions on, at least one. -/
def enabling : Reader (List Extension) := do
  for token in ["#", "!", "[", "enable", "("] do
    Reader.text token
    blank
  let extensions ← Reader.items blank extensionName ')' true
  if extensions.isEmpty then failure
  blank
  Reader.char ']'
  blank
  return extensions

/-! ## Parts of values -/

/-- The name of a field, up to its colon. -/
def fieldName : Reader String := do
  let name ← identifier
  blank
  Reader.char ':'
  return name

/-- A named field. -/
def field (value : Reader Ron) : Reader (String × Ron) := do
  let name ← fieldName
  blank
  return (name, ← value)

/-- An entry of a map. -/
def mapEntry (value : Reader Ron) : Reader Unit := do
  let _ ← value
  blank
  Reader.char ':'
  blank
  let _ ← value

/-- The named fields or the values of a structure or a tuple, up to the closing
    parenthesis, which is taken. -/
def body (name : Option String) (value : Reader Ron) : Reader Ron := do
  if ← Reader.looksAt fieldName then
    return .struct name (← Reader.items blank (field value) ')' true)
  let values ← Reader.items blank value ')' true
  return if values.isEmpty then .struct name [] else .other

/-- **Levels**: the readers of the values that may stand one level further in, two
    levels, and so on, up to the bound. -/
abbrev Levels := List (Reader Ron)

/-- Reads brackets that take `depth` levels, with parts one level further in. -/
def Levels.enter (levels : Levels) (depth : Nat) (contents : Reader Ron → Reader α) : Reader α :=
  if levels.length < depth then failure else contents (levels.getD depth failure)

/-! ## Options -/

/-- Whether a comma with something after it comes before the parenthesis that closes
    the `depth`-th open bracket. Looks past strings, characters and comments, once for
    each character of the bound. -/
def moreFollows : List Char → Nat → Reader Bool
  | [], _ => failure
  | _ :: bound, depth => do
    blank
    let _ ← Reader.optional character
    let _ ← Reader.optional stringReader
    let _ ← Reader.optional byteString
    let c ← Reader.next
    if c == '(' || c == '[' || c == '\x7b' then moreFollows bound (depth + 1)
    else if c == ')' || c == ']' || c == '\x7d' then
      if depth ≤ 1 then return false else moreFollows bound (depth - 1)
    else if c == ',' && depth == 1 then do
      blank
      return (← Reader.peek) != some ')'
    else moreFollows bound depth

/-- One value in an option, up to the closing parenthesis, which is taken. -/
def oneValue (levels : Levels) : Reader Ron := do
  let _ ← levels.enter 0 id
  blank
  let _ ← Reader.optional (Reader.char ',')
  blank
  Reader.char ')'
  return .other

/-- What is in an option whose contents need no parentheses of their own: nothing, the
    fields of a structure, several values, or one value. -/
def unwrapped (levels : Levels) : Reader Ron := do
  if (← Reader.peek) = some ')' then
    Reader.char ')'
    return .other
  let isBody ← Reader.looksAt fieldName
  if isBody || (← Reader.ahead (do moreFollows (← get) 1)) then
    let _ ← levels.enter 2 (body none)
    return .other
  else oneValue levels

/-- What follows the word `Some`. -/
def option (extensions : List Extension) (levels : Levels) : Reader Ron := do
  blank
  if levels.isEmpty then failure
  if (← Reader.peek) = some '(' then
    Reader.char '('
    blank
    if extensions.contains .unwrapVariantNewtypes then unwrapped levels
    else oneValue levels
  else if extensions.contains .implicitSome then
    let _ ← levels.enter 0 id
    return .other
  else failure

/-! ## Values -/

/-- Words that are values on their own. -/
def valueWords : List String :=
  ["true", "false", "None", "inf", "inff32", "inff64", "NaN", "NaNf32", "NaNf64"]

/-- What starts with an identifier. -/
def named (levels : Levels) : Reader Ron := do
  let name ← identifier
  blank
  if (← Reader.peek) = some '(' then
    Reader.char '('
    blank
    levels.enter 1 (body (some name))
  else return .other

/-- What stands in parentheses. The value that holds nothing has no parts, and takes
    no level. -/
def parenthesized (levels : Levels) : Reader Ron := do
  Reader.char '('
  if (← Reader.peek) = some ')' then
    Reader.char ')'
    return .struct none []
  blank
  levels.enter 1 (body none)

/-- A value of which others may be parts. -/
def compound (extensions : List Extension) (levels : Levels) : Reader Ron := do
  match ← Reader.peek with
  | some '(' => parenthesized levels
  | some '[' =>
    Reader.char '['
    levels.enter 1 fun value => return .list (← Reader.items blank value ']' true)
  | some '\x7b' =>
    Reader.char '\x7b'
    levels.enter 1 fun value => do
      let _ ← Reader.items blank (mapEntry value) '\x7d' true
      return .other
  | _ =>
    if ← Reader.looksAt (word "Some") then
      word "Some"
      option extensions levels
    else named levels

/-- A value of any kind. -/
def value (extensions : List Extension) (levels : Levels) : Reader Ron :=
  let quiet (p : Reader Unit) : Reader Ron := do
    p
    return .other
  let words := valueWords.foldr (fun w p => word w <|> p) failure
  .string <$> stringReader <|> quiet words <|> compound extensions levels <|>
    quiet (singleByte <|> byteString <|> character <|> number)

/-- The readers of values in which others are nested at most so deep, the deepest
    first. -/
def levelsTo (extensions : List Extension) : Nat → Levels
  | 0 => [value extensions []]
  | depth + 1 =>
    let levels := levelsTo extensions depth
    value extensions levels :: levels

/-- Values may be nested this deep. -/
def maxDepth : Nat := 128

/-! ## Documents -/

/-- **Document**: a value, and the extensions that are on. -/
structure Document where
  extensions : List Extension
  value : Ron

/-- A text that holds one value after its attributes. -/
def document : Reader Document := do
  blank
  let extensions := (← Reader.many enabling).flatten
  let value ← (levelsTo extensions maxDepth).enter 0 id
  blank
  return { extensions, value }

/-- **Reading** a whole text. -/
def Document.ofText? (text : String) : Option Document :=
  Reader.readAll document text.toList

end EffectText.Ron
