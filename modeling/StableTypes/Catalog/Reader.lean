import StableTypes.Catalog.Basic
import StableTypes.Json.Parser
import StableTypes.Validation

/-!
# Reading catalogs

A catalog document states all seventeen lists. A catalog file can also be
missing, or hold no document at all.
-/

namespace StableTypes.Catalog

/-- Reads one list of names. -/
def names (list : String) (members : List (String × Json)) : Validated (List String) :=
  Check.required list (Check.list Check.text) members

/-- Reads a catalog. -/
def read : Json → Validated Catalog :=
  Check.object fun members =>
    (((((((((((((((((names "primitiveTypes" members).map Catalog.mk).also
      (names "stringTypes" members)).also
      (names "unitTypes" members)).also
      (names "rootTypes" members)).also
      (names "functionTypePrefixes" members)).also
      (names "suspendFunctionTypePrefixes" members)).also
      (names "callbackAnnotations" members)).also
      (names "stableAnnotations" members)).also
      (names "markerAnnotations" members)).also
      (names "mutableCollectionTypes" members)).also
      (names "standardCollectionTypes" members)).also
      (names "immutableCollectionPackages" members)).also
      (names "immutableCollectionSimpleNames" members)).also
      (names "knownStableTypes" members)).also
      (names "knownStableSimpleNames" members)).also
      (names "nonRestartableAnnotations" members)).also
      (names "readOnlyAnnotations" members)

/-- Why there is no catalog. -/
inductive Failure where
  /-- There is no file. -/
  | missing (path : String)
  /-- The file holds no document. -/
  | unreadable (path : String)
  /-- The document is no catalog. -/
  | invalid (first : Issue) (others : List Issue)

/-- What is wrong, in one line. -/
def Failure.message : Failure → String
  | .missing path => s!"Known-types catalog not found: {path}"
  | .unreadable path => s!"Failed to read known-types catalog {path}"
  | .invalid .. => "Invalid known-types catalog"

/-- The lines of the issues. -/
def Failure.issues : Failure → List String
  | .invalid first others => (first :: others).map Issue.text
  | _ => []

/-- The catalog of a document. -/
def ofDocument (document : Json) : Except Failure Catalog :=
  match read document with
  | .valid catalog => .ok catalog
  | .invalid first others => .error (.invalid first others)

/-- The catalog in a file, which is named by its path and may be missing. -/
def ofFile (path : String) : Option String → Except Failure Catalog
  | none => .error (.missing path)
  | some text =>
    match Json.parse? text with
    | some document => ofDocument document
    | none => .error (.unreadable path)

end StableTypes.Catalog
