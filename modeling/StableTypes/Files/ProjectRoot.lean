import StableTypes.Files.Path

/-!
# Project roots

The root of a project is the nearest directory, from a start upwards, with a
manifest in it. At most ten directories are looked at, and none above the root
of the file system.
-/

namespace StableTypes.ProjectRoot

/-- The name of the manifest. -/
def manifest : String := "package.json"

/-- How many directories are looked at. -/
def maxLevels : Nat := 10

/-- No root was found: where the search started and how many levels up it went. -/
structure NotFound where
  /-- The directory where the search started. -/
  start : String
  /-- How many times it went up. -/
  levels : Nat
deriving DecidableEq, Inhabited

/-- What is wrong, in one line. -/
def NotFound.message (failure : NotFound) : String :=
  s!"Could not find project root ({manifest}) by walking up from {failure.start}. "
    ++ s!"Searched {failure.levels} levels up the directory tree."

/-- Looks at a directory and at those above it, `searched` levels being done. -/
def search (isPresent : String → Bool) :
    (levels searched : Nat) → (directory : String) → Except Nat String
  | 0, searched, _ => .error searched
  | levels + 1, searched, directory =>
    if isPresent (Path.resolve directory manifest) then .ok directory
    else if Path.parent directory = directory then .error searched
    else search isPresent levels (searched + 1) (Path.parent directory)

/-- The nearest root from a start upwards. -/
def find (isPresent : String → Bool) (start : String) : Except NotFound String :=
  (search isPresent maxLevels 0 start).mapError fun levels => ⟨start, levels⟩

end StableTypes.ProjectRoot
