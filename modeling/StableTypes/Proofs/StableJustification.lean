import StableTypes.Proofs.OutcomeOrigin

/-!
# Stable types are justified

A justification of a type is a finite derivation: each step names a reason of its
own or rests on justifications of the parts. Cycles have none, since the relation is
the least one. A classification calls a type stable only where there is such a
derivation, whatever was entered before, whatever the stack holds, and whatever the
model fails at, because a cut-off never gives an outcome that is stable.
-/

namespace StableTypes.Judge

/-- The type has a finite justification for being stable. -/
inductive Justified (judge : Judge) : TypeRef → Prop
  /-- It stands for a function type. -/
  | function {type expanded : TypeRef} : judge.model.StandsFor type expanded →
      expanded.isFunction = true → Justified judge type
  /-- It refers to a function interface. -/
  | functionInterface {type : TypeRef} {declaration : Declaration} {name : String} :
      judge.model.RefersTo type declaration → declaration.qualifiedName = some name →
      judge.catalog.isFunctionInterface name = true → Justified judge type
  /-- The declaration of a known kind is stable for what it says itself. -/
  | itself {type : TypeRef} {declaration : Declaration} :
      judge.model.RefersTo type declaration → declaration.kind ≠ .unknown →
      judge.StableByItself declaration → Justified judge type
  /-- A previous compilation found the concrete class to be stable. -/
  | inferred {type : TypeRef} {declaration : Declaration} :
      judge.model.RefersTo type declaration → declaration.IsConcrete →
      declaration.inferredParameters = some 0 → Justified judge type
  /-- The type that the value class wraps is justified. -/
  | wrapped {type : TypeRef} {declaration : Declaration} {property : Property} :
      judge.model.RefersTo type declaration → declaration.kind = .value →
      declaration.wrapped = some property → Justified judge property.type → Justified judge type
  /-- The marked declaration has no property that can be assigned, and the types of all its
  properties are justified. -/
  | marked {type : TypeRef} {declaration : Declaration} :
      judge.model.RefersTo type declaration → declaration.kind ≠ .unknown →
      judge.catalog.hasMarkerAnnotation declaration.annotations = true →
      declaration.NoneMutable →
      (∀ property ∈ declaration.properties, Justified judge property.type) → Justified judge type
  /-- The concrete class has no property that can be assigned, and the types of all its
  properties and all its supertypes but root types are justified. -/
  | members {type : TypeRef} {declaration : Declaration} :
      judge.model.RefersTo type declaration → declaration.IsConcrete →
      declaration.NoneMutable →
      (∀ property ∈ declaration.properties, Justified judge property.type) →
      (∀ supertype ∈ declaration.supertypes, isRoot judge.catalog supertype = false →
        Justified judge supertype) → Justified judge type

variable {judge : Judge} {outcome : TypeRef → Classification} {type : TypeRef}
  {declaration : Declaration}

/-- A type is justified where a rule calls its declaration stable and stable parts are
justified. -/
theorem justified_of_ruledBy {result : Classification}
    (refers : judge.model.RefersTo type declaration) (known : declaration.kind ≠ .unknown)
    (sound : ∀ part, (outcome part).isStable = true → judge.Justified part)
    (ruled : judge.RuledBy outcome declaration result) (h : result.isStable = true) :
    judge.Justified type := by
  cases ruled with
  | own own => exact .itself refers known (stableByItself_of_ownOutcome? own h)
  | wrapped value wraps same _ =>
    rw [same] at h
    exact .wrapped refers value wraps (sound _ h)
  | enumeration single => exact .itself refers known (.enumeration single)
  | assignable _ => cases h
  | marked marker fixed stable =>
    exact .marked refers known marker fixed
      fun property member => sound property.type (stable property member)
  | inferred concrete inferred => exact .inferred refers concrete inferred
  | members concrete =>
    obtain ⟨fixed, properties, supertypes⟩ := isStable_concreteClass h
    exact .members refers concrete fixed
      (fun property member => sound property.type (properties property member))
      (fun supertype member root => sound supertype (supertypes supertype member root))
  | undecided unstable _ =>
    rw [unstable] at h
    cases h

/-- A stable outcome is justified, at every room and with whatever signatures entered. -/
theorem justified_of_outcomeWithin (room : Nat) (active : List String) (type : TypeRef) :
    (judge.outcomeWithin room active type).isStable = true → judge.Justified type := by
  refine outcomeWithin_induction
    (motive := fun type result => result.isStable = true → judge.Justified type)
    ?undecided ?step room active type
  case undecided =>
    intro type result unstable _ h
    rw [unstable] at h
    cases h
  case step =>
    intro type outcome result sound origin h
    cases origin with
    | undecided unstable _ =>
      rw [unstable] at h
      cases h
    | function standsFor function => exact .function standsFor function
    | functionInterface refers named function => exact .functionInterface refers named function
    | rules refers known ruled => exact justified_of_ruledBy refers known sound ruled h

/-- Whatever the model fails at, whatever signatures are entered and however many fit, a
classification ends with an outcome, and if that is stable the type is justified. -/
theorem stable_is_justified (judge : Judge) (type : TypeRef) (guard : SignatureGuard) :
    ∃ outcome, (judge.classify type).runOn guard = (.ok outcome, guard) ∧
      (outcome.isStable = true → judge.Justified type) :=
  ⟨judge.outcomeOn guard type, classify_runOn judge type guard,
    justified_of_outcomeWithin guard.room guard.active type⟩

end StableTypes.Judge
