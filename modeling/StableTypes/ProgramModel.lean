import StableTypes.Declaration
import StableTypes.Text.Blank
import StableTypes.TypeRef.Substitution

/-!
# The model of a snapshot

All questions about types and callables answered from a snapshot. Of several
entries with one id the last one counts, at the place of the first. Names that
the snapshot leaves out are filled in from the ids. An alias is expanded by one
level, its parameters replaced by the arguments; a call counts only if the
callee is in the snapshot too.
-/

namespace StableTypes

/-- What an alias stands for. -/
structure AliasDefinition where
  /-- The parameters of the target. -/
  typeParameters : List String
  /-- The type that the alias abbreviates. -/
  target : TypeRef
deriving Inhabited

/-- The last dotted segment of an id without its type arguments; the id itself
if that is empty. -/
def lastSegment (id : String) : String :=
  let plain := id.toList.takeWhile (· ≠ '<')
  let segment := (Text.splitChars (· == '.') plain).getLastD []
  if segment.isEmpty then id else String.ofList segment

/-- A property completed. -/
def Property.ofShape (shape : PropertyShape) : Property :=
  ⟨shape.name, shape.type.complete, shape.mutable⟩

/-- The qualified name of a declaration with the given id. -/
def StatedName.complete (id : String) : StatedName → Option String
  | .unstated => some id
  | .absent => none
  | .given name => some name

/-- The property that a value class wraps: the one it names, or else the first. -/
def wrappedProperty (kind : ClassKind) (named : Option String) (properties : List Property) :
    Option Property :=
  if kind = .value then
    match named with
    | some name => if name = "" then properties.head? else properties.find? (·.name = name)
    | none => properties.head?
  else none

/-- A declaration completed. -/
def Declaration.ofShape (shape : DeclarationShape) : Declaration :=
  let properties := shape.properties.map Property.ofShape
  { id := shape.id
    qualifiedName := shape.qualifiedName.complete shape.id
    simpleName := shape.simpleName.getD (lastSegment shape.id)
    kind := shape.kind
    modality := shape.modality
    properties := properties
    supertypes := shape.supertypes.map TypeShape.complete
    annotations := shape.annotations
    wrapped := wrappedProperty shape.kind shape.wrappedProperty properties
    inferredParameters := shape.inferredParameters }

/-- An alias completed. -/
def AliasDefinition.ofShape (shape : AliasShape) : AliasDefinition :=
  ⟨shape.typeParameters, shape.target.complete⟩

/-- A callable completed. -/
def Callable.ofShape (shape : CallableShape) : Callable :=
  { id := shape.id
    name := shape.name.getD (lastSegment shape.id)
    qualifiedName := shape.qualifiedName.getD shape.id
    parameters := shape.parameters.map fun parameter =>
      ⟨parameter.name, parameter.type.complete⟩
    receivers := shape.receivers.map fun receiver => ⟨receiver.kind, receiver.type.complete⟩
    annotations := shape.annotations }

/-- The contents of a snapshot by id. -/
structure ProgramModel where
  /-- The declarations. -/
  declarations : Table Declaration
  /-- The aliases. -/
  aliases : Table AliasDefinition
  /-- The callables. -/
  callables : Table Callable
  /-- The ids that each callable names as its callees. -/
  calls : Table (List String)
deriving Inhabited

namespace ProgramModel

/-- The model of a snapshot. -/
def ofSnapshot (snapshot : Snapshot) : ProgramModel where
  declarations := Table.ofList (snapshot.declarations.map fun shape =>
    (shape.id, Declaration.ofShape shape))
  aliases := Table.ofList (snapshot.aliases.map fun shape =>
    (shape.id, AliasDefinition.ofShape shape))
  callables := Table.ofList (snapshot.callables.map fun shape =>
    (shape.id, Callable.ofShape shape))
  calls := Table.ofList (snapshot.callables.map fun shape => (shape.id, shape.callees))

/-- The declaration of an id. -/
def declaration? (model : ProgramModel) (id : String) : Option Declaration :=
  Table.get? id model.declarations

/-- The declaration that a nominal reference refers to. -/
def resolve (model : ProgramModel) : TypeRef → Option Declaration
  | .nominal declarationId _ _ => model.declaration? declarationId
  | _ => none

/-- The target of a definition for the given arguments, seen through the marks
of the reference. -/
def expansion (definition : AliasDefinition) (arguments : List TypeRef) (marks : Marks) : TypeRef :=
  (definition.target.substitute
    (Bindings.ofArguments definition.typeParameters arguments)).seenThrough marks

/-- A reference through a known alias, expanded by one level. -/
def expansion? (model : ProgramModel) : TypeRef → Option TypeRef
  | .alias aliasId arguments marks =>
    (Table.get? aliasId model.aliases).map fun definition => expansion definition arguments marks
  | _ => none

/-- A type expanded by one alias level; without a known alias it stays as it is. -/
def expandAlias (model : ProgramModel) (type : TypeRef) : TypeRef :=
  (model.expansion? type).getD type

/-- The callable of an id. -/
def callable? (model : ProgramModel) (id : String) : Option Callable :=
  Table.get? id model.callables

/-- The callees of a callable that are callables of the snapshot. -/
def callees (model : ProgramModel) (id : String) : List String :=
  ((Table.get? id model.calls).getD []).filter fun callee => (model.callable? callee).isSome

/-- The ids of the declarations in order. -/
def declarationIds (model : ProgramModel) : List String := Table.names model.declarations

/-- The ids of the callables in order. -/
def callableIds (model : ProgramModel) : List String := Table.names model.callables

/-- The answers about types, none of which fails. -/
def typeModel (model : ProgramModel) : TypeModel where
  resolve type := .ok (model.resolve type)
  expandAlias type := .ok (model.expandAlias type)

/-- The answers about callables, none of which fails. -/
def callModel (model : ProgramModel) : CallModel where
  resolveCallable id := .ok (model.callable? id)
  callees id := .ok (model.callees id)

end ProgramModel

end StableTypes
