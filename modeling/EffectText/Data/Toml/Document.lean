import EffectText.Data.Toml.Basic

/-! # TOML documents

    A document is a sequence of lines: a key with its value, or the header of a table
    or of an element of an array of tables. Reading a document adds line after line
    to a tree and fails at the first line that does not fit.

    A table of the tree has a **form**, which says what may still be added to it:

    * a table with a **header** of its own takes keys right after that header only;
    * a table that is **implied** by the header of another may get its own header;
    * a table that stands for a **dotted** key takes more dotted keys, and no header.

    Values, and the tables and arrays among them, are closed: nothing is added to
    them.
-/

namespace EffectText.Toml

/-! ## The tree -/

/-- What a table of the tree was made by. -/
inductive TableForm where
  | header
  | implied
  | dotted
  deriving DecidableEq, Repr

/-- **Node**: what the tree holds under a key. -/
inductive Node where
  /-- A closed value. -/
  | value (v : Toml)
  | table (form : TableForm) (entries : List (String × Node))
  /-- An array of tables, each with a header. -/
  | tables (elements : List (List (String × Node)))
  deriving Inhabited

/-- The nodes of a table, by key. -/
abbrev Entries := List (String × Node)

namespace Entries

/-- The node of a key. -/
def get? (entries : Entries) (key : String) : Option Node := entries.lookup key

/-- Puts a node under a key, in the place of one that is there. -/
def set (entries : Entries) (key : String) (node : Node) : Entries :=
  if (entries.get? key).isSome then
    entries.map fun (k, old) => if k = key then (k, node) else (k, old)
  else entries ++ [(key, node)]

/-- Changes the table at the end of a path, which is made where it does not exist.
    The last element stands for an array of tables. `made` is the form of new tables;
    on the way of a dotted key, no table may have a header of its own. -/
def updateAt (made : TableForm) (change : TableForm → Entries → Option Entries) :
    List String → TableForm → Entries → Option Entries
  | [], form, entries => change form entries
  | key :: path, _, entries =>
    match entries.get? key with
    | none => do
      let inner ← updateAt made change path made []
      return entries.set key (.table made inner)
    | some (.value _) => none
    | some (.tables elements) => do
      let last ← elements.getLast?
      let inner ← updateAt made change path .header last
      return entries.set key (.tables (elements.dropLast ++ [inner]))
    | some (.table form old) => do
      if made = .dotted && form = .header then none
      let inner ← updateAt made change path form old
      return entries.set key (.table form inner)

/-- Adds a value under a dotted key. The key must be new, and its last table must be
    the dotted one that the key speaks of. -/
def addPair (path : List String) (key : String) (v : Toml) (entries : Entries) :
    Option Entries :=
  let change (form : TableForm) (inner : Entries) : Option Entries :=
    if (form = .dotted) = path.isEmpty then none
    else if (inner.get? key).isSome then none
    else some (inner.set key (.value v))
  updateAt .dotted change path .header entries

/-- Gives the table at a path a header. -/
def addTable (path : List String) (key : String) (entries : Entries) : Option Entries :=
  let change (_ : TableForm) (inner : Entries) : Option Entries :=
    match inner.get? key with
    | none => some (inner.set key (.table .header []))
    | some (.table .implied old) => some (inner.set key (.table .header old))
    | some _ => none
  updateAt .implied change path .header entries

/-- Adds an element to the array of tables at a path. -/
def addElement (path : List String) (key : String) (entries : Entries) : Option Entries :=
  let change (_ : TableForm) (inner : Entries) : Option Entries :=
    match inner.get? key with
    | none => some (inner.set key (.tables [[]]))
    | some (.tables elements) => some (inner.set key (.tables (elements ++ [[]])))
    | some _ => none
  updateAt .implied change path .header entries

end Entries

mutual

/-- The value of a node. -/
def Node.toToml : Node → Toml
  | .value v => v
  | .table _ entries => .table (entriesToToml entries)
  | .tables elements => .array (elementsToToml elements)

/-- The values of the nodes of a table. -/
def entriesToToml : List (String × Node) → List (String × Toml)
  | [] => []
  | (key, node) :: rest => (key, node.toToml) :: entriesToToml rest

/-- The values of the elements of an array of tables. -/
def elementsToToml : List (List (String × Node)) → List Toml
  | [] => []
  | entries :: rest => .table (entriesToToml entries) :: elementsToToml rest

end

/-! ## Values -/

/-- A key, an equals sign and what `value` reads. -/
def pair (value : Reader Toml) : Reader (List String × Toml) := do
  let path ← keyPath
  Reader.char '='
  lineBlanks
  return (path, ← value)

/-- The table of keys and values that stand in braces. -/
def inlineTable? (pairs : List (List String × Toml)) : Option Toml := do
  let entries ← pairs.foldlM (fun (entries : Entries) (path, v) =>
    Entries.addPair path.dropLast (path.getLastD "") v entries) []
  return .table (entriesToToml entries)

/-- A value in which arrays and tables are nested less than `depth` deep. -/
def valueWithin : Nat → Reader Toml
  | 0 => failure
  | depth + 1 => do
    match ← Reader.peek with
    | some '"' | some '\x27' => return .string (← stringReader)
    | some '[' =>
      if depth = 0 then failure
      Reader.char '['
      return .array (← Reader.items arrayBlanks (valueWithin depth) ']' true)
    | some '\x7b' =>
      if depth = 0 then failure
      Reader.char '\x7b'
      let pairs ← Reader.items lineBlanks (pair (valueWithin depth)) '\x7d' false
      match inlineTable? pairs with
      | some made => return made
      | none => failure
    | some 't' => Reader.text "true"; return .boolean true
    | some 'f' => Reader.text "false"; return .boolean false
    | _ => dateTimeReader <|> floatReader <|> integerReader

/-! ## Lines -/

/-- A line of a document that says something. -/
inductive Line where
  | pair (path : List String) (v : Toml)
  | table (path : List String)
  | element (path : List String)

/-- One line, if it says something. -/
def line : Reader (Option Line) := do
  lineBlanks
  match ← Reader.peek with
  | none => failure
  | some '#' | some '\n' | some '\r' =>
    restOfLine
    return none
  | some '[' =>
    Reader.char '['
    let double ← Reader.optional (Reader.char '[')
    let path ← keyPath
    Reader.text (if double.isSome then "]]" else "]")
    restOfLine
    return some (if double.isSome then .element path else .table path)
  | some _ =>
    let (path, v) ← pair (valueWithin maxDepth)
    restOfLine
    return some (.pair path v)

/-- All lines of a document. -/
def lines : Reader (List Line) := do
  let all ← Reader.many line
  lineBlanks
  return all.filterMap id

/-! ## Documents -/

/-- A document that has been read up to some line: its tree, and the path of the table
    that keys go to. -/
structure Document where
  root : Entries := []
  current : List String := []

/-- Adds a line to a document. -/
def Document.add (document : Document) : Line → Option Document
  | .pair path v => do
    let change (_ : TableForm) (entries : Entries) : Option Entries :=
      Entries.addPair path.dropLast (path.getLastD "") v entries
    let root ← Entries.updateAt .implied change document.current .header document.root
    return { document with root }
  | .table path => do
    let root ← document.root.addTable path.dropLast (path.getLastD "")
    return { root, current := path }
  | .element path => do
    let root ← document.root.addElement path.dropLast (path.getLastD "")
    return { root, current := path }

/-- The text without a byte order mark at its start. -/
def withoutMark (text : List Char) : List Char :=
  match text with
  | '\ufeff' :: rest => rest
  | _ => text

/-- **Reading** a document: its top table. -/
def ofText? (text : String) : Option Toml := do
  let all ← Reader.readAll lines (withoutMark text.toList)
  let document ← all.foldlM Document.add {}
  return .table (entriesToToml document.root)

end EffectText.Toml
