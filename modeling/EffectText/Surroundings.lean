import EffectText.Bundled
import EffectText.FileTree

/-! # Surroundings of a run

    What a run can see besides its arguments: files, the working directory, a setting,
    and whether text may be colored.

    Two files have fixed names in a **data directory**: the ruleset and the content
    that are used where none are given. They are files like all others, wherever the
    directory is.
-/

namespace EffectText

/-! ## Paths -/

/-- The name of the ruleset in a data directory. -/
def rulesetFile : String := "ruleset.toml"

/-- The name of the content in a data directory. -/
def contentFile : String := "content.ron"

/-- The path of a file in a directory. -/
def inDirectory (directory file : String) : String :=
  if directory = "" || directory.endsWith "/" then directory ++ file
  else directory ++ "/" ++ file

/-! ## Surroundings -/

/-- The environment variable that holds the setting of the data directory. -/
def dataDirectoryVariable : String := "UNIQUE_DATA_DIR"

/-- The environment variable that holds the log filter. -/
def logFilterVariable : String := "RUST_LOG"

/-- **Surroundings** of a run. -/
structure Surroundings where
  /-- The setting of the data directory. -/
  dataDirectory : Option String := none
  workingDirectory : String := "."
  /-- The data directory that the program is delivered with. -/
  bundledDirectory : String
  /-- Whether there is a file at a path, be it readable or not. -/
  isFile : String → Bool
  /-- The bytes at a path, if they can be read. -/
  file : String → Option ByteArray
  /-- Whether text may be colored. -/
  colors : Bool := false

namespace Surroundings

/-- The data directory under the working directory. -/
def localDirectory (around : Surroundings) : String :=
  inDirectory around.workingDirectory "data"

/-- The ruleset of the data directory under the working directory. -/
def localRuleset (around : Surroundings) : String :=
  inDirectory around.localDirectory rulesetFile

/-- **Data directory**: the one that is set; else the one under the working directory,
    if there is a ruleset file in it; else the one that the program is delivered with. -/
def dataRoot (around : Surroundings) : String :=
  match around.dataDirectory with
  | some directory => directory
  | none =>
    if around.isFile around.localRuleset then around.localDirectory
    else around.bundledDirectory

/-- Surroundings to try the program in: the working directory holds a tree of files, and
    next to it are the files that the program is delivered with. -/
def ofTree (tree : FileTree) (dataDirectory : Option String) : Surroundings :=
  let text? (path : String) := (tree.read? path).or (Bundled.files.lookup path)
  { dataDirectory
    bundledDirectory := Bundled.directory
    isFile := fun path => (text? path).isSome
    file := fun path => (text? path).map String.toUTF8 }

end Surroundings

end EffectText
