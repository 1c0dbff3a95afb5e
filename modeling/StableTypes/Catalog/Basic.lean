import StableTypes.Text.Parts

/-!
# The catalog of known types

Lists of names of well-known types and annotations, and the questions that the
rules ask about them. A function interface is known by the start of its name, an
immutable collection by its package and a word in its name or by its simple name.
-/

namespace StableTypes

/-- Names of well-known types and annotations. -/
structure Catalog where
  /-- Types of primitive values. -/
  primitiveTypes : List String
  /-- Types of texts. -/
  stringTypes : List String
  /-- Types without information. -/
  unitTypes : List String
  /-- Types that every class extends. -/
  rootTypes : List String
  /-- Starts of the names of function interfaces. -/
  functionTypePrefixes : List String
  /-- Starts of the names of suspending function interfaces. -/
  suspendFunctionTypePrefixes : List String
  /-- Annotations of callbacks. -/
  callbackAnnotations : List String
  /-- Annotations that promise stability. -/
  stableAnnotations : List String
  /-- Annotations of types that are judged by their properties alone. -/
  markerAnnotations : List String
  /-- Collections that change in place. -/
  mutableCollectionTypes : List String
  /-- Collection interfaces whose implementation may change in place. -/
  standardCollectionTypes : List String
  /-- Packages of immutable collections, with the dot behind. -/
  immutableCollectionPackages : List String
  /-- Simple names of immutable collections. -/
  immutableCollectionSimpleNames : List String
  /-- Types known to be stable. -/
  knownStableTypes : List String
  /-- Simple names of types known to be stable. -/
  knownStableSimpleNames : List String
  /-- Annotations of callables that cannot be restarted. -/
  nonRestartableAnnotations : List String
  /-- Annotations of callables that only read. -/
  readOnlyAnnotations : List String
deriving Inhabited

namespace Catalog

/-- A primitive type. -/
def isPrimitive (catalog : Catalog) (name : String) : Bool := catalog.primitiveTypes.contains name

/-- A type of texts. -/
def isString (catalog : Catalog) (name : String) : Bool := catalog.stringTypes.contains name

/-- A type without information. -/
def isUnitLike (catalog : Catalog) (name : String) : Bool := catalog.unitTypes.contains name

/-- A type that every class extends. -/
def isRootType (catalog : Catalog) (name : String) : Bool := catalog.rootTypes.contains name

/-- A function interface. -/
def isFunctionInterface (catalog : Catalog) (name : String) : Bool :=
  catalog.functionTypePrefixes.any (Text.startsWith name)

/-- A suspending function interface. -/
def isSuspendFunctionInterface (catalog : Catalog) (name : String) : Bool :=
  catalog.suspendFunctionTypePrefixes.any (Text.startsWith name)

/-- A collection that changes in place. -/
def isMutableCollection (catalog : Catalog) (name : String) : Bool :=
  catalog.mutableCollectionTypes.contains name

/-- A collection interface whose implementation may change in place. -/
def isStandardCollection (catalog : Catalog) (name : String) : Bool :=
  catalog.standardCollectionTypes.contains name

/-- An immutable collection, by its qualified name if it has one, or else by its
simple name. -/
def isImmutableCollection (catalog : Catalog) (qualifiedName : Option String)
    (simpleName : String) : Bool :=
  qualifiedName.any (fun name =>
    catalog.immutableCollectionPackages.any (Text.startsWith name) &&
      (Text.contains name "Immutable" || Text.contains name "Persistent"))
  || catalog.immutableCollectionSimpleNames.contains simpleName

/-- A type known to be stable. -/
def isKnownStable (catalog : Catalog) (name : String) : Bool :=
  catalog.knownStableTypes.contains name

/-- A simple name of a type known to be stable. -/
def isKnownStableSimpleName (catalog : Catalog) (name : String) : Bool :=
  catalog.knownStableSimpleNames.contains name

/-- Some annotation marks a callback. -/
def hasCallbackAnnotation (catalog : Catalog) (annotations : List String) : Bool :=
  annotations.any catalog.callbackAnnotations.contains

/-- Some annotation promises stability. -/
def hasStableAnnotation (catalog : Catalog) (annotations : List String) : Bool :=
  annotations.any catalog.stableAnnotations.contains

/-- Some annotation is a marker. -/
def hasMarkerAnnotation (catalog : Catalog) (annotations : List String) : Bool :=
  annotations.any catalog.markerAnnotations.contains

/-- Some annotation forbids restarting. -/
def hasNonRestartableAnnotation (catalog : Catalog) (annotations : List String) : Bool :=
  annotations.any catalog.nonRestartableAnnotations.contains

/-- Some annotation says that only reading is done. -/
def hasReadOnlyAnnotation (catalog : Catalog) (annotations : List String) : Bool :=
  annotations.any catalog.readOnlyAnnotations.contains

end Catalog

end StableTypes
