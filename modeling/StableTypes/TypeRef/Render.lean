import StableTypes.TypeRef.Basic

/-!
# The text of a type reference

Annotations stand in front, each with an at sign, and a question mark behind a
nullable use. Type arguments stand in angle brackets. A function type is its
receiver, its parameters in parentheses and its result; a nullable one is put in
parentheses of its own. The text is the signature under which a type is entered
while it is classified.
-/

namespace StableTypes.TypeRef

/-- The annotations in front of a type. -/
def annotationText (annotations : List String) : String :=
  String.join (annotations.map fun annotation => "@" ++ annotation ++ " ")

/-- The mark behind a nullable type. -/
def nullMark (nullable : Bool) : String := if nullable then "?" else ""

/-- Type arguments in angle brackets, nothing if there are none. -/
def argumentText (arguments : List String) : String :=
  if arguments.isEmpty then "" else "<" ++ ", ".intercalate arguments ++ ">"

/-- A named type with its marks. -/
def namedText (name : String) (arguments : List String) (marks : Marks) : String :=
  annotationText marks.annotations ++ name ++ argumentText arguments ++ nullMark marks.nullable

/-- The parts of a function type put together. -/
def functionText (suspending : Bool) (receiver : String) (parameters : List String)
    (result : String) (marks : Marks) : String :=
  let signature := (if suspending then "suspend " else "") ++ receiver ++ "("
    ++ ", ".intercalate parameters ++ ") -> " ++ result
  annotationText marks.annotations ++
    (if marks.nullable then "(" ++ signature ++ ")?" else signature)

mutual

/-- The text of a type reference. -/
def render : TypeRef → String
  | .nominal declarationId arguments marks => namedText declarationId (renderAll arguments) marks
  | .alias aliasId arguments marks => namedText aliasId (renderAll arguments) marks
  | .parameter name marks => namedText name [] marks
  | .function suspending receiver parameters result marks =>
    functionText suspending (renderReceiver receiver) (renderAll parameters) (render result) marks
termination_by structural type => type

/-- The texts of a list of type references. -/
def renderAll : List TypeRef → List String
  | [] => []
  | type :: types => render type :: renderAll types
termination_by structural types => types

/-- The text of a receiver, a dot behind it. -/
def renderReceiver : Option TypeRef → String
  | none => ""
  | some receiver => render receiver ++ "."
termination_by structural receiver => receiver

end

/-- The text of the form that is not nullable. -/
def signature (type : TypeRef) : String := type.nonNull.render

end StableTypes.TypeRef
