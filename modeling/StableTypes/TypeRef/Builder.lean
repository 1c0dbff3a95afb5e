import StableTypes.TypeRef.Basic

/-!
# Building type references

References that a program puts together itself and does not read from a document.
A builder is told what a use has to say and has a default for the rest: a use is
not nullable and has no annotations, a list is empty, a function does not suspend,
has no receiver and gives the unit type. A specification is a nesting of builders,
the inner ones called first.
-/

namespace StableTypes

/-- What a builder is told about the marks of a use. -/
structure UseOptions where
  /-- The nullability, if it matters. -/
  nullable : Option Bool := none
  /-- The annotations, if there are any. -/
  annotations : Option (List String) := none
deriving DecidableEq, Inhabited

/-- The marks that a builder gives a use. -/
def UseOptions.marks (options : UseOptions) : Marks :=
  ⟨options.nullable.getD false, options.annotations.getD []⟩

/-- What the builder of function types is told. -/
structure FunctionOptions extends UseOptions where
  /-- Whether the function suspends, if it matters. -/
  suspending : Option Bool := none
  /-- The receiver, if there is one. -/
  receiver : Option TypeRef := none
  /-- The parameters, if there are any. -/
  parameters : Option (List TypeRef) := none
  /-- The result, if it is not the unit type. -/
  result : Option TypeRef := none
deriving Inhabited

namespace TypeRef

/-- Builds a nominal reference. -/
def ofClass (declarationId : String) (arguments : Option (List TypeRef) := none)
    (options : UseOptions := {}) : TypeRef :=
  .nominal declarationId (arguments.getD []) options.marks

/-- Builds a type parameter. -/
def ofParameter (name : String) (options : UseOptions := {}) : TypeRef :=
  .parameter name options.marks

/-- Builds a function type. -/
def ofFunction (options : FunctionOptions := {}) : TypeRef :=
  .function (options.suspending.getD false) options.receiver (options.parameters.getD [])
    (options.result.getD (ofClass "kotlin.Unit")) options.toUseOptions.marks

/-- Builds a reference through an alias. -/
def ofAlias (aliasId : String) (arguments : Option (List TypeRef) := none)
    (options : UseOptions := {}) : TypeRef :=
  .alias aliasId (arguments.getD []) options.marks

end TypeRef

/-- A nesting of builders with what each of them is told. -/
inductive TypeSpec where
  /-- A nominal reference. -/
  | nominal (declarationId : String) (arguments : Option (List TypeSpec)) (options : UseOptions)
  /-- A type parameter. -/
  | parameter (name : String) (options : UseOptions)
  /-- A function type. -/
  | function (suspending : Option Bool) (receiver : Option TypeSpec)
      (parameters : Option (List TypeSpec)) (result : Option TypeSpec) (options : UseOptions)
  /-- A reference through an alias. -/
  | alias (aliasId : String) (arguments : Option (List TypeSpec)) (options : UseOptions)
  /-- A use with another nullability than it was built with. -/
  | withNullability (type : TypeSpec) (nullable : Bool)
deriving Inhabited

namespace TypeSpec

mutual

/-- The type reference that the builders give. -/
def build : TypeSpec → TypeRef
  | .nominal declarationId arguments options =>
    .ofClass declarationId (buildList arguments) options
  | .parameter name options => .ofParameter name options
  | .function suspending receiver parameters result options =>
    .ofFunction
      { options with
        suspending := suspending
        receiver := buildPart receiver
        parameters := buildList parameters
        result := buildPart result }
  | .alias aliasId arguments options => .ofAlias aliasId (buildList arguments) options
  | .withNullability type nullable => (build type).withNullability nullable
termination_by structural spec => spec

/-- A list that a builder may be told. -/
def buildList : Option (List TypeSpec) → Option (List TypeRef)
  | none => none
  | some specs => some (buildEach specs)
termination_by structural specs => specs

/-- The items of a list. -/
def buildEach : List TypeSpec → List TypeRef
  | [] => []
  | spec :: specs => build spec :: buildEach specs
termination_by structural specs => specs

/-- A single type that a builder may be told. -/
def buildPart : Option TypeSpec → Option TypeRef
  | none => none
  | some spec => some (build spec)
termination_by structural spec => spec

end

end TypeSpec

end StableTypes
