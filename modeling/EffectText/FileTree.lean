/-! # File trees

    A **file tree** holds text files under one directory, by their paths from there.
    Paths may go through `.` and `..`, but they cannot leave the directory. What a path
    goes through must be a directory, which holds at least one file.
-/

namespace EffectText

/-- **File tree**: names of directories and the file, and the text of the file. -/
structure FileTree where
  files : List (List String × String)
  deriving Repr

namespace FileTree

/-- The names in a path. -/
def names (path : String) : List String := path.splitOn "/"

/-- The names in a path that say something. -/
def plainNames (path : String) : List String :=
  (names path).filter fun name => name ≠ "" && name ≠ "."

/-- The tree of files with these paths and texts. Of files with one path, the last
    counts. -/
def ofList (files : List (String × String)) : FileTree :=
  { files := files.reverse.map fun (path, text) => (plainNames path, text) }

/-- Whether names lead to a directory. -/
def isDirectory (tree : FileTree) (place : List String) : Bool :=
  place.isEmpty ||
    tree.files.any fun (file, _) => place.length < file.length && place.isPrefixOf file

/-- Where names lead from a place, if they stay in the tree. -/
def walk (tree : FileTree) : List String → List String → Option (List String)
  | place, [] => some place
  | place, name :: rest =>
    if !tree.isDirectory place then none
    else if name = "" || name = "." then walk tree place rest
    else if name = ".." then if place.isEmpty then none else walk tree place.dropLast rest
    else walk tree (place ++ [name]) rest

/-- The text of the file that a path leads to. -/
def read? (tree : FileTree) (path : String) : Option String :=
  if path.startsWith "/" then none
  else (tree.walk [] (names path)).bind (tree.files.lookup ·)

end FileTree

end EffectText
