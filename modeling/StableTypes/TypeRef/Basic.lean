/-!
# Type references

A use of a type: a nominal reference to a declaration, a type parameter, a
function type, or a reference through an alias. Every use carries marks, which
are its nullability and its annotations. References are plain values, so two
references are the same type use exactly if they are equal.
-/

namespace StableTypes

/-- What every use of a type carries beside the type. -/
structure Marks where
  /-- Null is a value of the use. -/
  nullable : Bool := false
  /-- Annotations in the order written. -/
  annotations : List String := []
deriving DecidableEq, Inhabited

/-- A use of a type. -/
inductive TypeRef where
  /-- A reference to a declaration, possibly with type arguments. -/
  | nominal (declarationId : String) (arguments : List TypeRef) (marks : Marks)
  /-- A type parameter that is not bound. -/
  | parameter (name : String) (marks : Marks)
  /-- A function type. -/
  | function (suspending : Bool) (receiver : Option TypeRef) (parameters : List TypeRef)
      (result : TypeRef) (marks : Marks)
  /-- A reference through an alias. -/
  | alias (aliasId : String) (arguments : List TypeRef) (marks : Marks)
deriving Inhabited

namespace TypeRef

/-- The marks of a use. -/
def marks : TypeRef → Marks
  | .nominal _ _ marks => marks
  | .parameter _ marks => marks
  | .function _ _ _ _ marks => marks
  | .alias _ _ marks => marks

/-- The same type with other marks. -/
def withMarks (marks : Marks) : TypeRef → TypeRef
  | .nominal declarationId arguments _ => .nominal declarationId arguments marks
  | .parameter name _ => .parameter name marks
  | .function suspending receiver parameters result _ =>
    .function suspending receiver parameters result marks
  | .alias aliasId arguments _ => .alias aliasId arguments marks

/-- Null is a value of the use. -/
def nullable (type : TypeRef) : Bool := type.marks.nullable

/-- The annotations of a use. -/
def annotations (type : TypeRef) : List String := type.marks.annotations

/-- The same use with the given nullability. -/
def withNullability (type : TypeRef) (nullable : Bool) : TypeRef :=
  type.withMarks { type.marks with nullable := nullable }

/-- The form of a use that is not nullable. -/
def nonNull (type : TypeRef) : TypeRef := type.withNullability false

/-- A use seen through another one: it is nullable if either is, and the outer
annotations come first. -/
def seenThrough (outer : Marks) (type : TypeRef) : TypeRef :=
  type.withMarks
    ⟨type.nullable || outer.nullable, outer.annotations ++ type.annotations⟩

/-- A reference through an alias. -/
def isAlias : TypeRef → Bool
  | .alias .. => true
  | _ => false

end TypeRef

end StableTypes
