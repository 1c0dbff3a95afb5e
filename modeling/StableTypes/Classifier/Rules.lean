import StableTypes.Catalog.Basic
import StableTypes.Classification
import StableTypes.Classifier.Reason
import StableTypes.Declaration
import StableTypes.Guard
import StableTypes.Number.Decimal
import StableTypes.Policy
import StableTypes.TypeRef.Render

/-!
# The rules

How the classification of a type follows from its declaration and from the
classifications of the types in it. The rules are tried in a fixed order and the
first that applies decides. First come those that look at the declaration alone,
then those that look at its wrapped type, its properties and its supertypes. The
rules do not know how the types inside are classified: that is a parameter, and
it may have effects, so they are stated for any monad that can carry faults.
-/

namespace StableTypes

/-- What the rules look up beside the type. -/
structure Judge where
  /-- Answers about types. -/
  model : TypeModel
  /-- Names of well-known types. -/
  catalog : Catalog
  /-- What the user decides. -/
  policy : Policy

/-- Where the aliases of a type lead. -/
inductive Expansion where
  /-- To a type that is no alias. -/
  | reached (type : TypeRef)
  /-- Nowhere, which is itself an outcome. -/
  | stuck (outcome : Classification)

/-- How many alias levels are followed. -/
def maxAliasExpansions : Nat := 32

namespace Judge

/-- Expands the aliases of `type`, of which `start` is the unexpanded form, by
at most `levels` levels. A reference that expands to itself is unresolved. -/
def expandWithin (model : TypeModel) (start : TypeRef) :
    (levels : Nat) → (type : TypeRef) → Except Fault Expansion
  | 0, type =>
    if type.isAlias then .ok (.stuck (.runtime start.signature Reason.tooComplex))
    else .ok (.reached type)
  | levels + 1, type =>
    if type.isAlias then
      match model.expandAlias type with
      | .error fault => .error fault
      | .ok next =>
        if next.isAlias && next.render = type.render then
          .ok (.stuck (.runtime type.signature Reason.unresolved))
        else expandWithin model start levels next
    else .ok (.reached type)

/-- Expands the aliases of a type. -/
def expandAliases (model : TypeModel) (type : TypeRef) : Except Fault Expansion :=
  expandWithin model type maxAliasExpansions type

/-- The outcome of a function type with the given annotations. -/
def functionReason (catalog : Catalog) (annotations : List String) (suspending : Bool) : String :=
  if catalog.hasCallbackAnnotation annotations then Reason.callbackFunction
  else if suspending then Reason.suspendFunction
  else Reason.function

/-- The outcome of the rules for qualified names. -/
def nameOutcome? (catalog : Catalog) (name : String) : Option Classification :=
  if catalog.isPrimitive name then some (.stable Reason.primitive)
  else if catalog.isString name then some (.stable Reason.string)
  else if catalog.isUnitLike name then some (.stable Reason.unit)
  else if catalog.isFunctionInterface name then some (.stable Reason.function)
  else if catalog.isMutableCollection name then some (.unstable Reason.mutableCollection)
  else none

/-- The outcome of the rules that look only at the names and annotations of a
declaration, if one of them applies. -/
def ownOutcome? (judge : Judge) (declaration : Declaration) : Option Classification :=
  let catalog := judge.catalog
  let name := declaration.displayName
  if judge.policy.isIgnored name then some (.stable (Reason.ignored name))
  else if judge.policy.isCustomStable name then some (.stable (Reason.customStable name))
  else if declaration.qualifiedName.any catalog.isKnownStable then
    some (.stable (Reason.knownStable name))
  else if catalog.isKnownStableSimpleName declaration.simpleName then
    some (.stable (Reason.knownStable declaration.simpleName))
  else if catalog.hasStableAnnotation declaration.annotations then
    some (.stable Reason.stableAnnotation)
  else
    match declaration.qualifiedName.bind (nameOutcome? catalog) with
    | some outcome => some outcome
    | none =>
      if catalog.isImmutableCollection declaration.qualifiedName declaration.simpleName then
        some (.stable Reason.immutableCollection)
      else if declaration.qualifiedName.any catalog.isStandardCollection then
        some (.runtime name Reason.standardCollection)
      else none

section

variable {m : Type → Type} [Monad m]

/-- A value class is what its wrapped type is, for a reason of its own. -/
def valueClass (classify : TypeRef → m Classification) (declaration : Declaration) :
    m Classification :=
  match declaration.wrapped with
  | none => pure (.runtime declaration.displayName Reason.noWrappedProperty)
  | some property => do
    let reason := Reason.wrapped property.type.render
    match ← classify property.type with
    | .stable _ => return .stable reason
    | .unstable _ => return .unstable reason
    | .runtime typeName _ => return .runtime typeName reason
    | other => return other

/-- Every property is stable; the first that is not ends the search. -/
def allStable (classify : TypeRef → m Classification) : List Property → m Bool
  | [] => pure true
  | property :: properties => do
    if (← classify property.type).isStable then allStable classify properties
    else return false

/-- A marked declaration is judged by its properties alone. Without an outcome
the later rules apply. -/
def markedClass (classify : TypeRef → m Classification) (declaration : Declaration) :
    m (Option Classification) := do
  if 0 < declaration.mutableCount then
    return some (.unstable (Reason.mutableProperties declaration.mutableCount))
  else if ← allStable classify declaration.properties then
    return some (.stable Reason.markerStable)
  else return none

/-- The supertype is a root type, which says nothing about its subtypes. -/
def isRoot (catalog : Catalog) : TypeRef → Bool
  | .nominal declarationId _ _ => catalog.isRootType declarationId
  | _ => false

/-- What a supertype that is not stable makes of its subtypes. -/
def inheritedOutcome (supertype : TypeRef) : Classification → Classification
  | .unstable _ => .unstable (Reason.extendsUnstable supertype.signature)
  | .combined members => .combined members
  | _ => .runtime supertype.signature (Reason.extendsRuntime supertype.signature)

/-- The outcome of the first supertype that is not stable. -/
def supertypesOutcome? (catalog : Catalog) (classify : TypeRef → m Classification) :
    List TypeRef → m (Option Classification)
  | [] => pure none
  | supertype :: supertypes => do
    if isRoot catalog supertype then supertypesOutcome? catalog classify supertypes
    else
      let outcome ← classify supertype
      if outcome.isStable then supertypesOutcome? catalog classify supertypes
      else return some (inheritedOutcome supertype outcome)

/-- The outcomes of some properties with their names. -/
def propertyOutcomes (classify : TypeRef → m Classification) :
    List Property → m (List (String × Classification))
  | [] => pure []
  | property :: properties => do
    let outcome ← classify property.type
    let outcomes ← propertyOutcomes classify properties
    return (property.name, outcome) :: outcomes

/-- The outcomes of properties that cannot be assigned, put together with the
outcome of the supertypes. -/
def membersOutcome (outcomes : List (String × Classification))
    (inherited : Option Classification) : Classification :=
  let unstableNames := (outcomes.filter (·.2.isUnstable)).map (·.1)
  if unstableNames.isEmpty then
    let others := (outcomes.map (·.2)).filter (!·.isStable) ++ inherited.toList
    if others.isEmpty then .stable Reason.allPropertiesStable else .combine others
  else .unstable (Reason.unstableProperties unstableNames)

/-- The outcome of the supertypes and properties of a concrete class. -/
def concreteClass (catalog : Catalog) (classify : TypeRef → m Classification)
    (declaration : Declaration) : m Classification := do
  let inherited ← supertypesOutcome? catalog classify declaration.supertypes
  if declaration.properties.isEmpty then
    return inherited.getD (.stable Reason.noMutableState)
  else if 0 < declaration.mutableCount then
    return .unstable (Reason.mutableProperties declaration.mutableCount)
  else
    let outcomes ← propertyOutcomes classify declaration.properties
    return membersOutcome outcomes inherited

/-- What a previous compilation found replaces an outcome that decides nothing. -/
def withInference (declaration : Declaration) (outcome : Classification) : Classification :=
  if outcome.isStable || outcome.isUnstable then outcome
  else
    match declaration.inferredParameters with
    | some 0 => .stable Reason.inferredStable
    | some count =>
      .runtime declaration.displayName (Reason.inferredDependent (Number.natText count))
    | none => outcome

/-- The rules for interfaces, abstract classes and concrete classes. -/
def openClass (judge : Judge) (classify : TypeRef → m Classification) (declaration : Declaration) :
    m Classification :=
  if declaration.kind = .interface then
    pure (.runtime declaration.displayName Reason.interface)
  else if declaration.modality = .abstract then
    pure (.runtime declaration.displayName Reason.abstract)
  else do
    return withInference declaration (← concreteClass judge.catalog classify declaration)

/-- All rules for declarations, in their order. -/
def classRules (judge : Judge) (classify : TypeRef → m Classification)
    (declaration : Declaration) : m Classification :=
  match judge.ownOutcome? declaration with
  | some outcome => pure outcome
  | none =>
    if declaration.kind = .value then valueClass classify declaration
    else if declaration.kind = .enumeration then pure (.stable Reason.enumeration)
    else if judge.catalog.hasMarkerAnnotation declaration.annotations then do
      match ← markedClass classify declaration with
      | some outcome => return outcome
      | none => judge.openClass classify declaration
    else judge.openClass classify declaration

/-- The outcome of a declaration, and the declaration guard afterwards. A
declaration whose rules are already being applied is taken to be stable. -/
def analyzeClass (judge : Judge) (classify : TypeRef → m Classification)
    (declaration : Declaration) (guard : DeclarationGuard) :
    m (Classification × DeclarationGuard) := do
  if guard.has declaration.id then
    return (.stable Reason.circularAssumedStable, guard)
  else if declaration.kind = .unknown then
    return (.unknown declaration.simpleName, guard)
  else
    let inside := guard.add declaration.id
    let outcome ← judge.classRules classify declaration
    return (outcome, inside.remove declaration.id)

/-- The outcome of a declaration that a reference with the given annotations
leads to. Function interfaces are judged like function types. -/
def declarationOutcome (judge : Judge) (classify : TypeRef → m Classification)
    (annotations : List String) (declaration : Declaration) : m Classification :=
  match declaration.qualifiedName.filter judge.catalog.isFunctionInterface with
  | some name =>
    pure (.stable (functionReason judge.catalog annotations
      (judge.catalog.isSuspendFunctionInterface name)))
  | none => do
    return (← judge.analyzeClass classify declaration .empty).1

/-- The outcome of a type, given how the types inside it are classified. -/
def typeOutcome [MonadExceptOf Fault m] (judge : Judge) (classify : TypeRef → m Classification)
    (type : TypeRef) : m Classification := do
  match ← answer (expandAliases judge.model type) with
  | .stuck outcome => return outcome
  | .reached expanded =>
    let expanded := expanded.nonNull
    let annotations := type.annotations ++ expanded.annotations
    match expanded with
    | .parameter name _ => return .parameter name
    | .function suspending _ _ _ _ =>
      return .stable (functionReason judge.catalog annotations suspending)
    | .alias .. => return .runtime expanded.render Reason.unresolved
    | .nominal .. =>
      match ← answer (judge.model.resolve expanded) with
      | none => return .runtime expanded.render Reason.unresolved
      | some declaration => judge.declarationOutcome classify annotations declaration

end

end Judge

end StableTypes
