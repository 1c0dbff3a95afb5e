import StableTypes.Proofs.TypeGraph

/-!
# The rules in two monads

The rules leave open in which monad types inside a declaration are classified. A
relation between the computations of two monads that respects results, sequencing
and faults is respected by every rule: where the parts of a declaration are
classified by related computations, the declaration is too. So what a guarded
classification does is derived rule by rule only once, here, for any two monads.
-/

namespace StableTypes

/-- A relation between the computations of two monads that respects results and
sequencing. -/
structure StepRelation (m n : Type → Type) [Monad m] [Monad n] where
  /-- The computations that belong together. -/
  rel : {α : Type} → m α → n α → Prop
  /-- Giving the same result belongs together. -/
  pure : ∀ {α : Type} (value : α), rel (Pure.pure value) (Pure.pure value)
  /-- Related computations may be continued by related ones. -/
  bind : ∀ {α β : Type} {first : m α} {first' : n α} {next : α → m β} {next' : α → n β},
    rel first first' → (∀ value, rel (next value) (next' value)) →
    rel (first >>= next) (first' >>= next')

/-- Equality of the computations of one monad. -/
def StepRelation.equality {m : Type → Type} [Monad m] : StepRelation m m where
  rel := Eq
  pure _ := rfl
  bind same continued := by rw [same, funext continued]

/-- A relation that respects faults as well. -/
structure FaultRelation (m n : Type → Type) [Monad m] [Monad n] [MonadExceptOf Fault m]
    [MonadExceptOf Fault n] extends StepRelation m n where
  /-- A fault cuts off what would have followed. -/
  throw : ∀ {α β : Type} (fault : Fault) (next : α → m β) (next' : α → n β),
    rel (MonadExcept.throw fault >>= next) (MonadExcept.throw fault >>= next')

namespace Judge

section

variable {m n : Type → Type} [Monad m] [Monad n] (R : StepRelation m n)
  {classify : TypeRef → m Classification} {classify' : TypeRef → n Classification}

/-- The rule for value classes asks about the wrapped type. -/
theorem rel_valueClass {declaration : Declaration}
    (wrapped : ∀ property, declaration.wrapped = some property →
      R.rel (classify property.type) (classify' property.type)) :
    R.rel (valueClass classify declaration) (valueClass classify' declaration) := by
  unfold valueClass
  cases h : declaration.wrapped with
  | none => exact R.pure _
  | some property =>
    refine R.bind (wrapped property h) fun outcome => ?_
    cases outcome <;> exact R.pure _

/-- The search for a property that is not stable asks about properties only. -/
theorem rel_allStable {properties : List Property}
    (parts : ∀ property ∈ properties, R.rel (classify property.type) (classify' property.type)) :
    R.rel (allStable classify properties) (allStable classify' properties) := by
  induction properties with
  | nil => exact R.pure _
  | cons property properties ih =>
    unfold allStable
    refine R.bind (parts property (by simp)) fun outcome => ?_
    split
    · exact ih fun other member => parts other (by simp [member])
    · exact R.pure _

/-- The rule for marked declarations asks about properties only. -/
theorem rel_markedClass {declaration : Declaration}
    (parts : ∀ property ∈ declaration.properties,
      R.rel (classify property.type) (classify' property.type)) :
    R.rel (markedClass classify declaration) (markedClass classify' declaration) := by
  unfold markedClass
  split
  · exact R.pure _
  · refine R.bind (rel_allStable R parts) fun stable => ?_
    split <;> exact R.pure _

/-- The search for a supertype that is not stable passes over root types. -/
theorem rel_supertypesOutcome? {catalog : Catalog} {supertypes : List TypeRef}
    (parts : ∀ supertype ∈ supertypes, isRoot catalog supertype = false →
      R.rel (classify supertype) (classify' supertype)) :
    R.rel (supertypesOutcome? catalog classify supertypes)
      (supertypesOutcome? catalog classify' supertypes) := by
  induction supertypes with
  | nil => exact R.pure _
  | cons supertype supertypes ih =>
    have rest := ih fun other member => parts other (by simp [member])
    unfold supertypesOutcome?
    split
    · exact rest
    next root =>
      refine R.bind (parts supertype (by simp) (by simpa using root)) fun outcome => ?_
      split
      · exact rest
      · exact R.pure _

/-- The outcomes of properties are asked for one after the other. -/
theorem rel_propertyOutcomes {properties : List Property}
    (parts : ∀ property ∈ properties, R.rel (classify property.type) (classify' property.type)) :
    R.rel (propertyOutcomes classify properties) (propertyOutcomes classify' properties) := by
  induction properties with
  | nil => exact R.pure _
  | cons property properties ih =>
    refine R.bind (parts property (by simp)) fun outcome => ?_
    refine R.bind (ih fun other member => parts other (by simp [member])) fun outcomes => ?_
    exact R.pure _

variable {judge : Judge} {declaration : Declaration}

/-- The rules for the members of a concrete class ask about parts only. -/
theorem rel_concreteClass {catalog : Catalog}
    (parts : ∀ part, catalog.Part declaration part → R.rel (classify part) (classify' part)) :
    R.rel (concreteClass catalog classify declaration)
      (concreteClass catalog classify' declaration) := by
  have supertypes : R.rel (supertypesOutcome? catalog classify declaration.supertypes)
      (supertypesOutcome? catalog classify' declaration.supertypes) :=
    rel_supertypesOutcome? R fun supertype member root => parts supertype (.supertype member root)
  have properties : R.rel (propertyOutcomes classify declaration.properties)
      (propertyOutcomes classify' declaration.properties) :=
    rel_propertyOutcomes R fun property member => parts _ (.property member)
  unfold concreteClass
  refine R.bind supertypes fun inherited => ?_
  split
  · exact R.pure _
  · split
    · exact R.pure _
    · exact R.bind properties fun outcomes => R.pure _

/-- The rules for open, abstract and concrete classes ask about parts only. -/
theorem rel_openClass
    (parts : ∀ part, judge.catalog.Part declaration part → R.rel (classify part) (classify' part)) :
    R.rel (judge.openClass classify declaration) (judge.openClass classify' declaration) := by
  unfold openClass
  split
  · exact R.pure _
  · split
    · exact R.pure _
    · exact R.bind (rel_concreteClass R parts) fun outcome => R.pure _

/-- All rules for declarations ask about parts only. -/
theorem rel_classRules
    (parts : ∀ part, judge.catalog.Part declaration part → R.rel (classify part) (classify' part)) :
    R.rel (judge.classRules classify declaration) (judge.classRules classify' declaration) := by
  unfold classRules
  split
  · exact R.pure _
  · split
    · exact rel_valueClass R fun property wrapped => parts _ (.wrapped wrapped)
    · split
      · exact R.pure _
      · split
        · refine R.bind (rel_markedClass R fun property member => parts _ (.property member))
            fun outcome? => ?_
          split
          · exact R.pure _
          · exact rel_openClass R parts
        · exact rel_openClass R parts

/-- Analyzing a declaration asks about parts only. -/
theorem rel_analyzeClass {guard : DeclarationGuard}
    (parts : ∀ part, judge.catalog.Part declaration part → R.rel (classify part) (classify' part)) :
    R.rel (judge.analyzeClass classify declaration guard)
      (judge.analyzeClass classify' declaration guard) := by
  unfold analyzeClass
  split
  · exact R.pure _
  · split
    · exact R.pure _
    · exact R.bind (rel_classRules R parts) fun outcome => R.pure _

/-- What a reference makes of its declaration asks about parts only. -/
theorem rel_declarationOutcome {annotations : List String}
    (parts : ∀ part, judge.catalog.Part declaration part → R.rel (classify part) (classify' part)) :
    R.rel (judge.declarationOutcome classify annotations declaration)
      (judge.declarationOutcome classify' annotations declaration) := by
  unfold declarationOutcome
  split
  · exact R.pure _
  · exact R.bind (rel_analyzeClass R parts) fun outcome => R.pure _

end

section

variable {m n : Type → Type} [Monad m] [Monad n] [MonadExceptOf Fault m] [MonadExceptOf Fault n]
  [LawfulMonad m] [LawfulMonad n] (R : FaultRelation m n)

/-- An answer is continued with what it holds; a fault is not continued at all. -/
theorem rel_answer {α β : Type} {given : Except Fault α} {next : α → m β} {next' : α → n β}
    (continued : ∀ value, given = .ok value → R.rel (next value) (next' value)) :
    R.rel (answer given >>= next) (answer given >>= next') := by
  cases given with
  | ok value => simpa only [answer, pure_bind] using continued value rfl
  | error fault => exact R.throw fault next next'

/-- The outcome of a type depends on the model and on how the parts of the
declaration it refers to are classified, and on nothing else. -/
theorem rel_typeOutcome {judge : Judge} {type : TypeRef}
    {classify : TypeRef → m Classification} {classify' : TypeRef → n Classification}
    (parts : ∀ part, judge.HasPart type part → R.rel (classify part) (classify' part)) :
    R.rel (judge.typeOutcome classify type) (judge.typeOutcome classify' type) := by
  unfold typeOutcome
  refine rel_answer R fun expansion reached => ?_
  cases expansion with
  | stuck outcome => exact R.pure _
  | reached expanded =>
    have standsFor := standsFor_of_expandAliases reached
    dsimp only
    split
    · exact R.pure _
    · exact R.pure _
    · exact R.pure _
    next nominal =>
      refine rel_answer R fun declaration? resolved => ?_
      cases declaration? with
      | none => exact R.pure _
      | some declaration =>
        refine rel_declarationOutcome R.toStepRelation fun part member => ?_
        refine parts part ⟨declaration, ⟨expanded, standsFor, ?_, resolved⟩, member⟩
        cases expanded <;> first | rfl | cases nominal

end

end Judge

end StableTypes
