import StableTypes.Text.Blank

/-!
# Paths

A path is a text with slashes between its segments; it is absolute if it starts
with a slash. Resolving works on the text alone: a single dot stands for the
directory at hand and two dots for the one above.
-/

namespace StableTypes.Path

/-- A path that does not depend on a working directory. -/
def isAbsolute (path : String) : Bool := path.toList.head? = some '/'

/-- The pieces between the slashes, empty ones included. -/
def pieces (path : String) : List String := Text.splitOn '/' path

/-- One more piece after the segments so far, which are in reverse. -/
def step (segments : List String) (piece : String) : List String :=
  if piece = "" ∨ piece = "." then segments
  else if piece = ".." then segments.tail
  else piece :: segments

/-- The segments of an absolute path from the root down. -/
def segments (path : String) : List String := ((pieces path).foldl step []).reverse

/-- The absolute path of some segments. -/
def ofSegments (segments : List String) : String := "/" ++ "/".intercalate segments

/-- A path seen from a working directory, as an absolute path without dots. -/
def resolve (directory path : String) : String :=
  ofSegments (segments (if isAbsolute path then path else directory ++ "/" ++ path))

/-- What is before the last slash of a reversed path, in order; slashes at the
very end do not count. -/
def beforeLast (reversed : List Char) : List Char :=
  (((reversed.dropWhile (· = '/')).dropWhile (· ≠ '/')).drop 1).reverse

/-- The directory that holds an absolute path; the root holds itself. -/
def parent (path : String) : String :=
  match beforeLast path.toList.reverse with
  | [] => "/"
  | cs => String.ofList cs

end StableTypes.Path
