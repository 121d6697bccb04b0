import EffectText.Data.Json
import EffectText.Statement

/-! # Temporary statements

    A **temporary statement** is a text with a number of turns left. The text is
    parsed when the statement is first asked for, and the parsed statement is kept:
    a later change of the text does not change it. It is never written to JSON.
-/

namespace EffectText

/-- **Temporary statement**: a text, the turns left, and the statement once it has
    been asked for. -/
structure Temporary where
  text : String := ""
  turnsLeft : Int := 0
  parsed : Option Statement := none

namespace Temporary

instance : Inhabited Temporary := ⟨{}⟩

/-- A temporary statement with the text of `statement`. -/
def ofStatement (statement : Statement) (turns : Int) : Temporary :=
  { text := statement.text, turnsLeft := turns }

/-- **The statement**: the one kept, or else the text parsed as an effect. -/
def statement (temporary : Temporary) : Statement :=
  temporary.parsed.getD (.effect temporary.text)

/-- The temporary statement after its statement has been asked for. -/
def accessed (temporary : Temporary) : Temporary :=
  { temporary with parsed := some temporary.statement }

/-- What there is to tell about asking for the statement: about parsing, if it has
    to be parsed. -/
def accessEvents (temporary : Temporary) : List Event :=
  if temporary.parsed.isSome then [] else temporary.statement.events

/-- The same turns with a text that starts anew from the statement. -/
def rewrapped (temporary : Temporary) : Temporary :=
  ofStatement temporary.statement temporary.turnsLeft

/-! ## JSON -/

/-- The value written to JSON. -/
def json (temporary : Temporary) : Json :=
  .object [("unique", .string temporary.text), ("turns_left", .integer temporary.turnsLeft)]

/-- The JSON text of a temporary statement. -/
def toJson (temporary : Temporary) : String := temporary.json.compact

/-- An integer of thirty-two bits. -/
def readTurns : Reader Int := do
  match ← Json.number with
  | .integer n => if isInt32 n then return n else failure
  | _ => failure

/-- One member of the object: the text, the turns, or one that does not matter. -/
inductive Member where
  | text (value : String)
  | turns (value : Int)
  | other

/-- Reads one member of the object. -/
def readMember : Reader Member := do
  let name ← Json.textReader
  Json.blank
  Reader.char ':'
  Json.blank
  if name = "unique" then return .text (← Json.textReader)
  else if name = "turns_left" then return .turns (← readTurns)
  else
    Json.skipValue
    return .other

/-- The temporary statement of members, which have one text and one number of
    turns. -/
def ofMembers? (members : List Member) : Option Temporary :=
  let texts := members.filterMap fun
    | .text value => some value
    | _ => none
  let turns := members.filterMap fun
    | .turns value => some value
    | _ => none
  match texts, turns with
  | [text], [turnsLeft] => some { text, turnsLeft }
  | _, _ => none

/-- An object with the members, or an array of the text and the turns. -/
def read : Reader Temporary := do
  match ← Reader.peek with
  | some '\x7b' =>
    Reader.char '\x7b'
    match ofMembers? (← Reader.items Json.blank readMember '\x7d' false) with
    | some temporary => return temporary
    | none => failure
  | some '[' =>
    Reader.char '['
    Json.blank
    let text ← Json.textReader
    Json.blank
    Reader.char ','
    Json.blank
    let turnsLeft ← readTurns
    Json.blank
    Reader.char ']'
    return { text, turnsLeft }
  | _ => failure

/-- The temporary statement that a JSON text describes. -/
def ofJson? (s : String) : Option Temporary :=
  Reader.readAll (do Json.blank; let temporary ← read; Json.blank; return temporary) s.toList

end Temporary

end EffectText
