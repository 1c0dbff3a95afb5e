import StableTypes.Fault
import StableTypes.Snapshot.Basic
import StableTypes.Table

/-!
# Declarations and models

The facts that a classification asks for: what a class declares, what an alias
stands for, what a callable takes and what it calls. A model answers such
questions, and any question may fail.
-/

namespace StableTypes

/-- A property of a declaration. -/
structure Property where
  /-- Its name. -/
  name : String
  /-- Its type. -/
  type : TypeRef
  /-- It can be assigned after construction. -/
  mutable : Bool
deriving Inhabited

/-- A class-like declaration. -/
structure Declaration where
  /-- Its id. -/
  id : String
  /-- Its qualified name, unless the host could not compute it. -/
  qualifiedName : Option String
  /-- Its simple name. -/
  simpleName : String
  /-- Its kind. -/
  kind : ClassKind
  /-- Its modality. -/
  modality : Modality
  /-- Its properties in order. -/
  properties : List Property
  /-- Its direct supertypes in order. -/
  supertypes : List TypeRef
  /-- Its annotations in order. -/
  annotations : List String
  /-- The property that a value class wraps. -/
  wrapped : Option Property
  /-- On how many type parameters a previous compilation found it to depend. -/
  inferredParameters : Option Nat
deriving Inhabited

/-- The name under which a declaration is reported. -/
def Declaration.displayName (declaration : Declaration) : String :=
  declaration.qualifiedName.getD declaration.simpleName

/-- Number of properties that can be assigned. -/
def Declaration.mutableCount (declaration : Declaration) : Nat :=
  (declaration.properties.filter (·.mutable)).length

/-- A parameter of a callable. -/
structure Parameter where
  /-- Its name. -/
  name : String
  /-- Its type. -/
  type : TypeRef
deriving Inhabited

/-- A receiver of a callable. -/
structure Receiver where
  /-- What it is for. -/
  kind : ReceiverKind
  /-- Its type. -/
  type : TypeRef
deriving Inhabited

/-- A callable. -/
structure Callable where
  /-- Its id. -/
  id : String
  /-- Its name. -/
  name : String
  /-- Its qualified name. -/
  qualifiedName : String
  /-- Its parameters in order. -/
  parameters : List Parameter
  /-- Its receivers in order. -/
  receivers : List Receiver
  /-- Its annotations in order. -/
  annotations : List String
deriving Inhabited

/-- Answers about types. -/
structure TypeModel where
  /-- The declaration that a nominal reference refers to, if it is known. -/
  resolve : TypeRef → Except Fault (Option Declaration)
  /-- A reference with its outermost aliases expanded; other types and unknown
  aliases are given back unchanged. -/
  expandAlias : TypeRef → Except Fault TypeRef

/-- Answers about callables. -/
structure CallModel where
  /-- The callable of an id, if it is known. -/
  resolveCallable : String → Except Fault (Option Callable)
  /-- The ids that a callable calls. -/
  callees : String → Except Fault (List String)

/-- Fails a query whose id has a fault. -/
def faulty {α : Type} (faults : Table Fault) (id : String) (answer : Except Fault α) :
    Except Fault α :=
  match Table.get? id faults with
  | some fault => .error fault
  | none => answer

/-- The model whose queries fail for the ids with a fault. -/
def TypeModel.failingAt (model : TypeModel) (resolving expanding : Table Fault) : TypeModel where
  resolve type :=
    match type with
    | .nominal declarationId _ _ => faulty resolving declarationId (model.resolve type)
    | _ => model.resolve type
  expandAlias type :=
    match type with
    | .alias aliasId _ _ => faulty expanding aliasId (model.expandAlias type)
    | _ => model.expandAlias type

/-- The model whose queries fail for the ids with a fault. -/
def CallModel.failingAt (model : CallModel) (resolving calling : Table Fault) : CallModel where
  resolveCallable id := faulty resolving id (model.resolveCallable id)
  callees id := faulty calling id (model.callees id)

end StableTypes
