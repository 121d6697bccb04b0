import EffectText.Data.Ron.Document
import EffectText.Definition.Basic

/-! # Content definitions in RON

    A content definition is the structure `ContentDef` with the field `objects`, a
    list of structures `ContentObjectDef` with the fields `kind`, `name` and
    `uniques`. Only kind and name must be there.

    The names of the structures may be left out, unless the text asks for them. No
    field may be written twice. Other fields mean nothing.
-/

namespace EffectText.Ron

/-- The fields of a structure, if it has that name or needs none. -/
def fieldsOf? (nameNeeded : Bool) (name : String) : Ron → Option (List (String × Ron))
  | .struct none fields => if nameNeeded then none else some fields
  | .struct (some written) fields => if written = name then some fields else none
  | _ => none

/-- The value that `read?` makes of a field, or the default where there is no such
    field. It fails for a field that is written twice. -/
def field? (fields : List (String × Ron)) (name : String) (read? : Ron → Option α)
    (default : Option α) : Option α :=
  match fields.filter (·.1 = name) with
  | [] => default
  | [(_, value)] => read? value
  | _ => none

/-- The text, if the value is one. -/
def string? : Ron → Option String
  | .string s => some s
  | _ => none

/-- What `item?` makes of every item of a list. -/
def list? (item? : Ron → Option α) : Ron → Option (List α)
  | .list items => items.mapM item?
  | _ => none

/-- The object that a value describes. -/
def objectDefinition? (nameNeeded : Bool) (value : Ron) : Option ObjectDefinition := do
  let fields ← value.fieldsOf? nameNeeded "ContentObjectDef"
  return {
    kind := ← field? fields "kind" string? none
    name := ← field? fields "name" string? none
    statements := ← field? fields "uniques" (list? string?) (some []) }

/-- The content definition that a value describes. -/
def contentDefinition? (nameNeeded : Bool) (value : Ron) : Option ContentDefinition := do
  let fields ← value.fieldsOf? nameNeeded "ContentDef"
  return { objects := ← field? fields "objects" (list? (objectDefinition? nameNeeded)) (some []) }

end EffectText.Ron

namespace EffectText

/-- **Reading** a content definition from a RON text. -/
def ContentDefinition.ofRon? (text : String) : Option ContentDefinition := do
  let document ← Ron.Document.ofText? text
  document.value.contentDefinition? (document.extensions.contains .explicitStructNames)

end EffectText
