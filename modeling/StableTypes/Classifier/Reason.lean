/-!
# Reasons

The fixed reasons of classifications, and those that name a count, a type or a
list of properties.
-/

namespace StableTypes.Reason

/-- A function type with a callback annotation. -/
def callbackFunction : String := "callback-annotated function type"

/-- A suspending function type. -/
def suspendFunction : String := "suspending function type"

/-- Any other function type. -/
def function : String := "function type"

/-- A reference that leads to no declaration. -/
def unresolved : String := "unresolved"

/-- A type nested too deeply, or behind too many aliases. -/
def tooComplex : String := "too complex"

/-- A type met again while it is classified. -/
def circularReference : String := "circular reference"

/-- A declaration met again while its rules are applied. -/
def circularAssumedStable : String := "circular reference - assumed stable"

/-- A declaration with an annotation that promises stability. -/
def stableAnnotation : String := "annotated as stable"

/-- A primitive type. -/
def primitive : String := "primitive type"

/-- A type of texts. -/
def string : String := "string type"

/-- A type without information. -/
def unit : String := "Unit/Nothing type"

/-- A collection that changes in place. -/
def mutableCollection : String := "mutable collection"

/-- A collection that never changes. -/
def immutableCollection : String := "immutable collection"

/-- A collection interface. -/
def standardCollection : String := "interface; concrete implementation may be mutable"

/-- An enumeration. -/
def enumeration : String := "enum class"

/-- A marked declaration whose properties are stable. -/
def markerStable : String := "marker type, all properties stable"

/-- An interface. -/
def interface : String := "interface; implementation could vary"

/-- An abstract class. -/
def abstract : String := "abstract; subclass could vary"

/-- A class without properties. -/
def noMutableState : String := "no mutable state"

/-- A class with stable properties. -/
def allPropertiesStable : String := "all properties stable"

/-- A class that a previous compilation found to be stable. -/
def inferredStable : String := "inferred stable by a previous compilation"

/-- A value class that wraps nothing. -/
def noWrappedProperty : String := "value class without a wrapped property"

/-- A value class that wraps a type with the given text. -/
def wrapped (type : String) : String :=
  "Value class - stability inherited from wrapped type (" ++ type ++ ")"

/-- Properties that can be assigned. -/
def mutableProperties (count : Nat) : String :=
  toString count ++ " mutable " ++ (if count = 1 then "property" else "properties")

/-- Properties whose types are unstable. -/
def unstableProperties (names : List String) : String :=
  "properties with unstable types: [" ++ ", ".intercalate names ++ "]"

/-- A name that the policy leaves out. -/
def ignored (name : String) : String := "Ignored by policy: " ++ name

/-- A name that the user vouches for. -/
def customStable (name : String) : String := "Custom stable type: " ++ name

/-- A name that the catalog knows to be stable. -/
def knownStable (name : String) : String := "Known stable type: " ++ name

/-- A supertype that is unstable. -/
def extendsUnstable (type : String) : String := "extends unstable type " ++ type

/-- A supertype that only run time decides. -/
def extendsRuntime (type : String) : String := "extends " ++ type ++ " with runtime stability"

/-- A class that a previous compilation found to depend on its type parameters,
their number given as text. -/
def inferredDependent (count : String) : String :=
  "inferred stability depends on " ++ count ++ " type parameter(s)"

/-- A classification that failed. -/
def failed (message : String) : String := "analysis failed: " ++ message

/-- What stands for the name of a type that cannot be read. -/
def unreadableType : String := "<unrenderable type>"

end StableTypes.Reason
