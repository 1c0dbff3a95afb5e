import StableTypes.Files.Basic
import StableTypes.Files.Path

/-!
# File trees

A file system held as a value: the texts of files by the segments of their
absolute paths. A directory is there if some file lies in it, or if it leads to
the working directory. Paths are followed piece by piece, so a path through a
missing directory leads nowhere even if it turns back.
-/

namespace StableTypes

/-- Files below a working directory. -/
structure FileTree where
  /-- The segments of the working directory. -/
  directory : List String
  /-- The texts of the files by segments; the last one at a path counts. -/
  files : List (List String × String)

namespace FileTree

/-- The tree of files whose paths are given from the working directory. -/
def ofFiles (directory : String) (files : List (String × String)) : FileTree where
  directory := Path.segments directory
  files := files.reverse.map fun (path, text) => (Path.segments (Path.resolve directory path), text)

/-- There is a directory at some segments. -/
def isDirectory (tree : FileTree) (segments : List String) : Bool :=
  segments.isPrefixOf tree.directory
    || tree.files.any fun (path, _) => segments.isPrefixOf path && segments ≠ path

/-- The text of the file at some segments. -/
def text? (tree : FileTree) (segments : List String) : Option String := tree.files.lookup segments

/-- Something is at some segments. -/
def contains (tree : FileTree) (segments : List String) : Bool :=
  tree.isDirectory segments || (tree.text? segments).isSome

/-- Follows the pieces of a path from the segments reached, which are in reverse. -/
def follow (tree : FileTree) (path : String) (reached : List String) :
    List String → Except FileError (List String)
  | [] => .ok reached.reverse
  | piece :: pieces =>
    if tree.isDirectory reached.reverse then
      if tree.contains (Path.step reached piece).reverse then
        follow tree path (Path.step reached piece) pieces
      else .error (.missing path)
    else .error (.notDirectory path)

/-- Reads the file at a path. -/
def read (tree : FileTree) (path : String) : Except FileError String := do
  let start := if Path.isAbsolute path then [] else tree.directory.reverse
  if path = "" then throw (.missing path)
  let segments ← tree.follow path start (Path.pieces path)
  match tree.text? segments with
  | some text => return text
  | none => throw .isDirectory

/-- Something is at an absolute path. -/
def isPresent (tree : FileTree) (path : String) : Bool := tree.contains (Path.segments path)

/-- Access to the files of a tree. -/
def toFiles (tree : FileTree) : Files Id where
  directory := Path.ofSegments tree.directory
  read := tree.read

end FileTree

end StableTypes
