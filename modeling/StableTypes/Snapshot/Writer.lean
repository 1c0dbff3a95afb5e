import StableTypes.Snapshot.Basic

/-!
# Writing snapshots

The document of a snapshot states every list, kind and modality, and the names
and type parts that the snapshot states. Reading it gives the snapshot back.
-/

namespace StableTypes

open Json

/-- A property as a document. -/
def PropertyShape.toJson (property : PropertyShape) : Json :=
  .object [("name", .string property.name), ("type", property.type.toJson),
    ("mutable", .bool property.mutable)]

/-- A qualified name as a member. -/
def StatedName.members : StatedName → List (String × Json)
  | .unstated => []
  | .absent => [("qualifiedName", .null)]
  | .given name => [("qualifiedName", .string name)]

/-- A declaration as a document. -/
def DeclarationShape.toJson (declaration : DeclarationShape) : Json :=
  .object ([("id", .string declaration.id)] ++ declaration.qualifiedName.members
    ++ optional "simpleName" (declaration.simpleName.map .string)
    ++ [("kind", .string declaration.kind.name), ("modality", .string declaration.modality.name),
      ("properties", .array (declaration.properties.map PropertyShape.toJson)),
      ("supertypes", .array (declaration.supertypes.map TypeShape.toJson)),
      ("annotations", strings declaration.annotations)]
    ++ optional "wrappedProperty" (declaration.wrappedProperty.map .string)
    ++ optional "inferredStability"
      (declaration.inferredParameters.map fun count => .object [("parameters", nat count)]))

/-- An alias as a document. -/
def AliasShape.toJson (shape : AliasShape) : Json :=
  .object [("id", .string shape.id), ("typeParameters", strings shape.typeParameters),
    ("target", shape.target.toJson)]

/-- A parameter of a callable as a document. -/
def ParameterShape.toJson (parameter : ParameterShape) : Json :=
  .object [("name", .string parameter.name), ("type", parameter.type.toJson)]

/-- A receiver of a callable as a document. -/
def ReceiverShape.toJson (receiver : ReceiverShape) : Json :=
  .object [("kind", .string receiver.kind.name), ("type", receiver.type.toJson)]

/-- A callable as a document. -/
def CallableShape.toJson (callable : CallableShape) : Json :=
  .object ([("id", .string callable.id)]
    ++ optional "name" (callable.name.map .string)
    ++ optional "qualifiedName" (callable.qualifiedName.map .string)
    ++ [("parameters", .array (callable.parameters.map ParameterShape.toJson)),
      ("receivers", .array (callable.receivers.map ReceiverShape.toJson)),
      ("annotations", strings callable.annotations), ("callees", strings callable.callees)])

/-- A snapshot as a document. -/
def Snapshot.toJson (snapshot : Snapshot) : Json :=
  .object [("declarations", .array (snapshot.declarations.map DeclarationShape.toJson)),
    ("aliases", .array (snapshot.aliases.map AliasShape.toJson)),
    ("callables", .array (snapshot.callables.map CallableShape.toJson))]

end StableTypes
