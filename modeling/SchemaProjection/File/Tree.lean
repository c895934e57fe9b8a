import SchemaProjection.Entries
import SchemaProjection.Text.Segment

/-!
# Trees of files

A tree is a file or a directory of named trees; a file system is the tree of its root. A path is
followed part by part from the root, if it is absolute, and otherwise from a working directory: an
empty part and a dot stay in a directory, two dots lead to the one that it stands in, and a name
enters it. Two dots at the root stay there. Nothing stands at an empty path or below a file.
-/
namespace SchemaProjection

/-- A file, or a directory of named trees. -/
inductive FileTree where
  /-- A file with its bytes. -/
  | file (content : List UInt8)
  /-- A directory. -/
  | directory (entries : List (String × FileTree))
deriving Inhabited

namespace FileTree

/-- The directory without entries. -/
def empty : FileTree := .directory []

/-- What stands at the end of a list of names. -/
def get? : FileTree → List String → Option FileTree
  | tree, [] => some tree
  | .file _, _ :: _ => none
  | .directory entries, name :: rest =>
    match entries.lookup name with
    | some inner => inner.get? rest
    | none => none

/-- Put a tree at the end of a list of names, with the directories that are missing on the way. -/
def put (node : FileTree) : List String → FileTree → FileTree
  | [], _ => node
  | name :: rest, .file _ => .directory [(name, put node rest empty)]
  | name :: rest, .directory entries =>
    .directory (Entries.put name (put node rest ((entries.lookup name).getD empty)) entries)

/-- The parts of a path. -/
def parts (path : String) : List String :=
  (Text.pieces (· == '/') path.toList).map String.ofList

/-- The names under which stands what a path leads to, from the place of a directory on. -/
def follow (tree : FileTree) (here : List String) : List String → Option (List String)
  | [] => some here
  | part :: rest =>
    match tree.get? here with
    | some (.directory entries) =>
      if part = "" ∨ part = "." then tree.follow here rest
      else if part = ".." then tree.follow here.dropLast rest
      else if (entries.lookup part).isSome then tree.follow (here ++ [part]) rest
      else none
    | _ => none

/-- The directory in which a path begins: the root for an absolute path, which begins with a slash,
and otherwise the working directory. -/
def start (working : List String) (path : String) : List String :=
  if (parts path).head? = some "" then [] else working

/-- The names under which stands what a path leads to, in a working directory. -/
def place? (tree : FileTree) (path : String) (working : List String := []) :
    Option (List String) :=
  if path.isEmpty then none else tree.follow (start working path) (parts path)

/-- What a path leads to, in a working directory. -/
def at? (tree : FileTree) (path : String) (working : List String := []) : Option FileTree :=
  (tree.place? path working).bind tree.get?

/-- Write a file, in a working directory. The directory of the file must be there, and no directory
may stand in its place. -/
def write? (tree : FileTree) (path : String) (content : List UInt8)
    (working : List String := []) : Option FileTree := do
  let name ← (parts path).getLast?
  let home ← tree.follow (start working path) (parts path).dropLast
  if ["", ".", ".."].contains name then none
  else
    match tree.get? home, tree.get? (home ++ [name]) with
    | some (.directory _), none | some (.directory _), some (.file _) =>
      some (put (.file content) (home ++ [name]) tree)
    | _, _ => none

mutual

/-- The files of a tree with the names that lead to them: those of a directory entry by entry, in
the order of the names of its entries. -/
def walk : FileTree → List (List String × List UInt8)
  | .file content => [([], content)]
  | .directory entries =>
    ((walkEach entries).mergeSort fun left right => left.1 ≤ right.1).flatMap fun (name, files) =>
      files.map fun (path, content) => (name :: path, content)

/-- The files of each entry of a directory. -/
def walkEach : List (String × FileTree) → List (String × List (List String × List UInt8))
  | [] => []
  | (name, tree) :: rest => (name, tree.walk) :: walkEach rest

end

end FileTree

/-- The extension of a file name: what follows its last dot, if something stands before it. -/
def extension? (name : String) : Option String :=
  let pieces := (Text.pieces (· == '.') name.toList).map String.ofList
  match pieces with
  | [] | [_] | ["", _] => none
  | _ => pieces.getLast?

end SchemaProjection
