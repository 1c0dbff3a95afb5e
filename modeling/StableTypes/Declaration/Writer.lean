import StableTypes.Declaration

/-!
# Writing declarations and callables

The documents of completed declarations and callables. What a declaration does
not have is left out; its lists are always written.
-/

namespace StableTypes

/-- A property as a document. -/
def Property.toJson (property : Property) : Json :=
  .object [("name", .string property.name), ("type", property.type.toJson),
    ("mutable", .bool property.mutable)]

/-- A declaration as a document. -/
def Declaration.toJson (declaration : Declaration) : Json :=
  .object ([("id", .string declaration.id)]
    ++ Json.optional "qualifiedName" (declaration.qualifiedName.map .string)
    ++ [("simpleName", .string declaration.simpleName),
      ("kind", .string declaration.kind.name), ("modality", .string declaration.modality.name),
      ("properties", .array (declaration.properties.map Property.toJson)),
      ("supertypes", .array (declaration.supertypes.map TypeRef.toJson)),
      ("annotations", Json.strings declaration.annotations)]
    ++ Json.optional "wrappedProperty" (declaration.wrapped.map Property.toJson)
    ++ Json.optional "inferredStability" (declaration.inferredParameters.map fun count =>
      .object [("parameters", Json.nat count)]))

/-- A parameter as a document. -/
def Parameter.toJson (parameter : Parameter) : Json :=
  .object [("name", .string parameter.name), ("type", parameter.type.toJson)]

/-- A receiver as a document. -/
def Receiver.toJson (receiver : Receiver) : Json :=
  .object [("kind", .string receiver.kind.name), ("type", receiver.type.toJson)]

/-- A callable as a document. -/
def Callable.toJson (callable : Callable) : Json :=
  .object [("id", .string callable.id), ("name", .string callable.name),
    ("qualifiedName", .string callable.qualifiedName),
    ("parameters", .array (callable.parameters.map Parameter.toJson)),
    ("receivers", .array (callable.receivers.map Receiver.toJson)),
    ("annotations", Json.strings callable.annotations)]

end StableTypes
