import StableTypes.TypeRef.Basic

/-!
# Substitution of type parameters

All bound parameters are replaced at once. What replaces an occurrence is seen
through it: it is nullable if the occurrence is, and the annotations of the
occurrence come before its own. Parameters inside a replacement are left alone.
-/

namespace StableTypes

/-- Replacements for type parameters; of two for one name the first counts. -/
abbrev Bindings := List (String × TypeRef)

/-- The bindings of parameter names to arguments by position. Names beyond the
last argument stay free, and of equal names the last one counts. -/
def Bindings.ofArguments (names : List String) (arguments : List TypeRef) : Bindings :=
  (names.zip arguments).reverse

namespace TypeRef

/-- The replacement of one occurrence of a parameter. -/
def substituteParameter (bindings : Bindings) (name : String) (marks : Marks) : TypeRef :=
  match bindings.lookup name with
  | some bound => bound.seenThrough marks
  | none => .parameter name marks

mutual

/-- Replaces the bound parameters in a type. -/
def substitute (bindings : Bindings) : TypeRef → TypeRef
  | .nominal declarationId arguments marks =>
    .nominal declarationId (substituteAll bindings arguments) marks
  | .parameter name marks => substituteParameter bindings name marks
  | .function suspending receiver parameters result marks =>
    .function suspending (substituteReceiver bindings receiver) (substituteAll bindings parameters)
      (substitute bindings result) marks
  | .alias aliasId arguments marks => .alias aliasId (substituteAll bindings arguments) marks
termination_by structural type => type

/-- Replaces the bound parameters in a list of types. -/
def substituteAll (bindings : Bindings) : List TypeRef → List TypeRef
  | [] => []
  | type :: types => substitute bindings type :: substituteAll bindings types
termination_by structural types => types

/-- Replaces the bound parameters in a receiver. -/
def substituteReceiver (bindings : Bindings) : Option TypeRef → Option TypeRef
  | none => none
  | some receiver => some (substitute bindings receiver)
termination_by structural receiver => receiver

end

end TypeRef

end StableTypes
