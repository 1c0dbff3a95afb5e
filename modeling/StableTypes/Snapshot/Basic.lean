import StableTypes.TypeRef.Shape

/-!
# Snapshots

A snapshot is what a host reports about its program: declarations, aliases, and
callables with the ids of their callees. This module holds a snapshot after
reading, where every list is present and every declaration has a kind and a
modality, but names may still be left out.
-/

namespace StableTypes

/-- The kinds of declarations. -/
inductive ClassKind where
  /-- A class. -/
  | plain
  /-- An interface. -/
  | interface
  /-- An enumeration. -/
  | enumeration
  /-- A class around a single property. -/
  | value
  /-- A declaration of a kind the host does not know. -/
  | unknown
deriving DecidableEq, Inhabited

/-- The kinds with the names that documents use. -/
def ClassKind.names : List (String × ClassKind) :=
  [("class", .plain), ("interface", .interface), ("enum", .enumeration), ("value_class", .value),
    ("unknown", .unknown)]

/-- The name of a kind. -/
def ClassKind.name : ClassKind → String
  | .plain => "class"
  | .interface => "interface"
  | .enumeration => "enum"
  | .value => "value_class"
  | .unknown => "unknown"

/-- How open a declaration is to subclasses. -/
inductive Modality where
  /-- No subclasses. -/
  | final
  /-- Subclasses anywhere. -/
  | opened
  /-- No instances of its own. -/
  | abstract
  /-- A closed set of subclasses. -/
  | sealed
deriving DecidableEq, Inhabited

/-- The modalities with the names that documents use. -/
def Modality.names : List (String × Modality) :=
  [("final", .final), ("open", .opened), ("abstract", .abstract), ("sealed", .sealed)]

/-- The name of a modality. -/
def Modality.name : Modality → String
  | .final => "final"
  | .opened => "open"
  | .abstract => "abstract"
  | .sealed => "sealed"

/-- What a receiver is for. -/
inductive ReceiverKind where
  /-- The receiver of an extension. -/
  | extension
  /-- The receiver that a member belongs to. -/
  | dispatch
  /-- A context receiver. -/
  | context
deriving DecidableEq, Inhabited

/-- The kinds of receivers with the names that documents use. -/
def ReceiverKind.names : List (String × ReceiverKind) :=
  [("extension", .extension), ("dispatch", .dispatch), ("context", .context)]

/-- The name of a kind of receiver. -/
def ReceiverKind.name : ReceiverKind → String
  | .extension => "extension"
  | .dispatch => "dispatch"
  | .context => "context"

/-- What a document says about the qualified name of a declaration. -/
inductive StatedName where
  /-- Nothing; the id serves as the name. -/
  | unstated
  /-- There is none, because the host could not compute it. -/
  | absent
  /-- The name. -/
  | given (name : String)
deriving DecidableEq, Inhabited

/-- A property in a snapshot. -/
structure PropertyShape where
  /-- Its name. -/
  name : String
  /-- Its type. -/
  type : TypeShape
  /-- It can be assigned after construction. -/
  mutable : Bool
deriving Inhabited

/-- A declaration in a snapshot. -/
structure DeclarationShape where
  /-- Its id. -/
  id : String
  /-- Its qualified name. -/
  qualifiedName : StatedName
  /-- Its simple name, if stated. -/
  simpleName : Option String
  /-- Its kind. -/
  kind : ClassKind
  /-- Its modality. -/
  modality : Modality
  /-- Its properties in order. -/
  properties : List PropertyShape
  /-- Its direct supertypes in order. -/
  supertypes : List TypeShape
  /-- Its annotations in order. -/
  annotations : List String
  /-- The name of the property that a value class wraps, if stated. -/
  wrappedProperty : Option String
  /-- On how many type parameters a previous compilation found it to depend. -/
  inferredParameters : Option Nat
deriving Inhabited

/-- An alias in a snapshot. -/
structure AliasShape where
  /-- Its id. -/
  id : String
  /-- The parameters of its target. -/
  typeParameters : List String
  /-- The type that it abbreviates. -/
  target : TypeShape
deriving Inhabited

/-- A parameter of a callable in a snapshot. -/
structure ParameterShape where
  /-- Its name. -/
  name : String
  /-- Its type. -/
  type : TypeShape
deriving Inhabited

/-- A receiver of a callable in a snapshot. -/
structure ReceiverShape where
  /-- What it is for. -/
  kind : ReceiverKind
  /-- Its type. -/
  type : TypeShape
deriving Inhabited

/-- A callable in a snapshot. -/
structure CallableShape where
  /-- Its id. -/
  id : String
  /-- Its name, if stated. -/
  name : Option String
  /-- Its qualified name, if stated. -/
  qualifiedName : Option String
  /-- Its parameters in order. -/
  parameters : List ParameterShape
  /-- Its receivers in order. -/
  receivers : List ReceiverShape
  /-- Its annotations in order. -/
  annotations : List String
  /-- The ids that it calls, possibly repeated or not in the snapshot. -/
  callees : List String
deriving Inhabited

/-- What a host reports about its program. -/
structure Snapshot where
  /-- The declarations. -/
  declarations : List DeclarationShape
  /-- The aliases. -/
  aliases : List AliasShape
  /-- The callables. -/
  callables : List CallableShape
deriving Inhabited

end StableTypes
