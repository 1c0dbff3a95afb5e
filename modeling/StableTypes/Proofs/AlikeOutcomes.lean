import StableTypes.Proofs.OutcomeOrigin
import StableTypes.Proofs.VerdictMonotonicity

/-!
# Outcomes of one kind and one verdict

The order in which a class declares its properties shows in reasons and in the members of combined
outcomes, but not in what the rules ask of an outcome: its kind, and whether it is stable or
unstable. So declarations that differ in the order of their properties have outcomes that are alike
in this sense, where the outcomes of their parts are. There is one lemma for each rule. A rule only
counts properties, or asks whether all or some of them are stable or unstable.
-/

namespace StableTypes

/-- The kinds of outcomes. -/
inductive OutcomeKind where
  /-- Values stay as they are. -/
  | stable
  /-- Values can change. -/
  | unstable
  /-- A value at run time decides. -/
  | runtime
  /-- A type argument decides. -/
  | parameter
  /-- Nothing is known. -/
  | unknown
  /-- Several outcomes. -/
  | combined
deriving DecidableEq

namespace Classification

/-- The kind of an outcome. -/
def kind : Classification → OutcomeKind
  | .stable _ => .stable
  | .unstable _ => .unstable
  | .runtime _ _ => .runtime
  | .parameter _ => .parameter
  | .unknown _ => .unknown
  | .combined _ => .combined

/-- Two outcomes are of one kind and come to one verdict. -/
structure Alike (outcome other : Classification) : Prop where
  /-- They are of one kind. -/
  kind : outcome.kind = other.kind
  /-- They come to one verdict. -/
  verdict : outcome.verdict = other.verdict

section

variable {outcome other : Classification}

/-- Every outcome is like itself. -/
theorem Alike.refl (outcome : Classification) : outcome.Alike outcome := ⟨rfl, rfl⟩

/-- Of two outcomes that are alike both are stable or none. -/
theorem Alike.isStable (alike : outcome.Alike other) : outcome.isStable = other.isStable := by
  rw [Bool.eq_iff_iff, ← verdict_eq_stable_iff, ← verdict_eq_stable_iff, alike.verdict]

/-- Of two outcomes that are alike both are unstable or none. -/
theorem Alike.isUnstable (alike : outcome.Alike other) : outcome.isUnstable = other.isUnstable := by
  rw [Bool.eq_iff_iff, ← verdict_eq_unstable_iff, ← verdict_eq_unstable_iff, alike.verdict]

/-- Outcomes of one kind that are both stable or not, and both unstable or not, are alike. -/
theorem alike_of (kind : outcome.kind = other.kind) (stable : outcome.isStable = other.isStable)
    (unstable : outcome.isUnstable = other.isUnstable) : outcome.Alike other := by
  refine ⟨kind, ?_⟩
  rw [verdict, verdict, stable, unstable]

end

end Classification

/-- The second declaration is the first one with its properties in another order. -/
inductive Declaration.Rearranged (declaration : Declaration) : Declaration → Prop
  /-- Nothing else changes. -/
  | properties {properties : List Property} : declaration.properties.Perm properties →
      Rearranged declaration { declaration with properties := properties }

/-- As many properties can be assigned in any order. -/
theorem Declaration.Rearranged.mutableCount_eq {declaration declaration' : Declaration}
    (rearranged : declaration.Rearranged declaration') :
    declaration'.mutableCount = declaration.mutableCount := by
  obtain ⟨perm⟩ := rearranged
  exact ((perm.filter _).length_eq).symm

namespace Judge

open Classification

section

variable {outcome outcome' : TypeRef → Classification} {declaration declaration' : Declaration}

/-- All properties have a stable type in both orders or in neither. -/
theorem all_isStable_eq (parts : ∀ part, (outcome part).Alike (outcome' part))
    (rearranged : declaration.Rearranged declaration') :
    (declaration'.properties.all fun property => (outcome' property.type).isStable) =
      declaration.properties.all fun property => (outcome property.type).isStable := by
  obtain ⟨perm⟩ := rearranged
  rw [perm.all_eq]
  exact congrArg _ (funext fun property => (parts property.type).isStable.symm)

/-- Some property has an unstable type in both orders or in neither. -/
theorem any_isUnstable_eq (parts : ∀ part, (outcome part).Alike (outcome' part))
    (rearranged : declaration.Rearranged declaration') :
    (declaration'.properties.any fun property => (outcome' property.type).isUnstable) =
      declaration.properties.any fun property => (outcome property.type).isUnstable := by
  obtain ⟨perm⟩ := rearranged
  rw [perm.any_eq]
  exact congrArg _ (funext fun property => (parts property.type).isUnstable.symm)

/-- A value class passes on what the type that it wraps comes to. -/
theorem alike_valueClass (parts : ∀ part, (outcome part).Alike (outcome' part))
    (rearranged : declaration.Rearranged declaration') :
    Alike (valueClass (m := Id) outcome declaration)
      (valueClass (m := Id) outcome' declaration') := by
  obtain ⟨-⟩ := rearranged
  unfold valueClass
  dsimp only
  cases declaration.wrapped with
  | none => exact .refl _
  | some property =>
    have inside := parts property.type
    dsimp only
    generalize outcome property.type = verdict at inside
    generalize outcome' property.type = verdict' at inside
    obtain ⟨kind, verdicts⟩ := inside
    cases verdict <;> cases verdict' <;>
      first | exact ⟨rfl, rfl⟩ | exact ⟨rfl, verdicts⟩ | cases kind

/-- What is inherited from outcomes that are alike is alike. -/
theorem alike_inheritedOutcome {supertype : TypeRef} {inherited inherited' : Classification}
    (alike : inherited.Alike inherited') :
    (inheritedOutcome supertype inherited).Alike (inheritedOutcome supertype inherited') := by
  obtain ⟨kind, verdicts⟩ := alike
  cases inherited <;> cases inherited' <;>
    first | exact ⟨rfl, rfl⟩ | exact ⟨rfl, verdicts⟩ | cases kind

/-- The same supertype decides, in the same way. -/
theorem alike_supertypesOutcome? (catalog : Catalog)
    (parts : ∀ part, (outcome part).Alike (outcome' part)) (supertypes : List TypeRef) :
    Option.Rel Alike (supertypesOutcome? (m := Id) catalog outcome supertypes)
      (supertypesOutcome? (m := Id) catalog outcome' supertypes) := by
  have same : (fun supertype => !isRoot catalog supertype && !(outcome' supertype).isStable) =
      fun supertype => !isRoot catalog supertype && !(outcome supertype).isStable := by
    funext supertype
    rw [(parts supertype).isStable]
  rw [supertypesOutcome?_id, supertypesOutcome?_id, same]
  cases supertypes.find? _ with
  | none => exact .none
  | some supertype => exact .some (alike_inheritedOutcome (parts supertype))

/-- The kind of what the members of a class come to. -/
theorem kind_membersOutcome (outcomes : List (String × Classification))
    (inherited : Option Classification) :
    (membersOutcome outcomes inherited).kind =
      if outcomes.any (·.2.isUnstable) then .unstable
      else if outcomes.all (·.2.isStable) && inherited.isNone then .stable
      else .combined := by
  have calm : (((outcomes.filter (·.2.isUnstable)).map (·.1)).isEmpty = true) ↔
      ¬ outcomes.any (·.2.isUnstable) = true := by
    simp [List.filter_eq_nil_iff]
  have nothing : (((outcomes.map (·.2)).filter (!·.isStable) ++ inherited.toList).isEmpty = true) ↔
      (outcomes.all (·.2.isStable) && inherited.isNone) = true := by
    simpa [List.filter_eq_nil_iff] using fun _ => forall_comm
  unfold membersOutcome
  dsimp only
  by_cases unstable : outcomes.any (·.2.isUnstable) = true
  · rw [if_neg (calm.not.mpr (not_not.mpr unstable)), if_pos unstable]
    rfl
  · rw [if_pos (calm.mpr unstable), if_neg unstable]
    by_cases stable : (outcomes.all (·.2.isStable) && inherited.isNone) = true
    · rw [if_pos (nothing.mpr stable), if_pos stable]
      rfl
    · rw [if_neg (nothing.not.mpr stable), if_neg stable]
      rfl

/-- What is inherited in one way or the other is unstable, or neither is. -/
theorem exists_isUnstable_iff {inherited inherited' : Option Classification}
    (inherits : Option.Rel Alike inherited inherited') :
    (∃ c, inherited' = some c ∧ c.isUnstable = true) ↔
      ∃ c, inherited = some c ∧ c.isUnstable = true := by
  cases inherits with
  | none => rfl
  | some alike => simp only [Option.some.injEq, exists_eq_left', alike.isUnstable]

/-- A concrete class is of one kind in any order of its properties. -/
theorem kind_concreteClass_eq (catalog : Catalog)
    (parts : ∀ part, (outcome part).Alike (outcome' part))
    (rearranged : declaration.Rearranged declaration') :
    (concreteClass (m := Id) catalog outcome' declaration' : Classification).kind =
      (concreteClass (m := Id) catalog outcome declaration : Classification).kind := by
  have inherits := alike_supertypesOutcome? catalog parts declaration.supertypes
  have mutables := rearranged.mutableCount_eq
  have stable := all_isStable_eq parts rearranged
  have unstable := any_isUnstable_eq parts rearranged
  obtain ⟨perm⟩ := rearranged
  dsimp only at stable unstable
  rw [concreteClass_id, concreteClass_id, mutables, ← perm.isEmpty_eq]
  dsimp only
  generalize supertypesOutcome? (m := Id) catalog outcome declaration.supertypes = inherited
    at inherits ⊢
  generalize supertypesOutcome? (m := Id) catalog outcome' declaration.supertypes = inherited'
    at inherits ⊢
  split
  · cases inherits with
    | none => rfl
    | some alike => exact alike.kind.symm
  · split
    · rfl
    · rw [kind_membersOutcome, kind_membersOutcome]
      simp only [List.any_map, List.all_map, Function.comp_def, stable, unstable]
      cases inherits <;> rfl

/-- A concrete class is stable or not in any order of its properties. -/
theorem isStable_concreteClass_eq (catalog : Catalog)
    (parts : ∀ part, (outcome part).Alike (outcome' part))
    (rearranged : declaration.Rearranged declaration') :
    (concreteClass (m := Id) catalog outcome' declaration' : Classification).isStable =
      (concreteClass (m := Id) catalog outcome declaration : Classification).isStable := by
  have mutables := rearranged.mutableCount_eq
  have stable := all_isStable_eq parts rearranged
  obtain ⟨perm⟩ := rearranged
  rw [Bool.eq_iff_iff, isStable_concreteClass_iff, isStable_concreteClass_iff,
    ← Declaration.mutableCount_eq_zero, ← Declaration.mutableCount_eq_zero, mutables,
    ← List.all_eq_true, ← List.all_eq_true, stable]
  simp only [(parts _).isStable]

/-- A concrete class is unstable or not in any order of its properties. -/
theorem isUnstable_concreteClass_eq (catalog : Catalog)
    (parts : ∀ part, (outcome part).Alike (outcome' part))
    (rearranged : declaration.Rearranged declaration') :
    (concreteClass (m := Id) catalog outcome' declaration' : Classification).isUnstable =
      (concreteClass (m := Id) catalog outcome declaration : Classification).isUnstable := by
  have inherits := alike_supertypesOutcome? catalog parts declaration.supertypes
  have mutables := rearranged.mutableCount_eq
  have unstable := any_isUnstable_eq parts rearranged
  obtain ⟨perm⟩ := rearranged
  rw [Bool.eq_iff_iff, isUnstable_concreteClass_iff, isUnstable_concreteClass_iff,
    ← Declaration.mutableCount_eq_zero, ← Declaration.mutableCount_eq_zero, mutables,
    ← List.any_eq_true, ← List.any_eq_true, unstable]
  exact or_congr_right (or_congr_right (exists_isUnstable_iff inherits))

/-- A concrete class is decided by its members in any order. -/
theorem alike_concreteClass (catalog : Catalog)
    (parts : ∀ part, (outcome part).Alike (outcome' part))
    (rearranged : declaration.Rearranged declaration') :
    Alike (concreteClass (m := Id) catalog outcome declaration)
      (concreteClass (m := Id) catalog outcome' declaration') :=
  alike_of (kind_concreteClass_eq catalog parts rearranged).symm
    (isStable_concreteClass_eq catalog parts rearranged).symm
    (isUnstable_concreteClass_eq catalog parts rearranged).symm

/-- What a previous compilation found replaces outcomes that are alike or none of them. -/
theorem alike_withInference {result result' : Classification}
    (rearranged : declaration.Rearranged declaration') (alike : result.Alike result') :
    (withInference declaration result).Alike (withInference declaration' result') := by
  obtain ⟨-⟩ := rearranged
  unfold withInference
  rw [alike.isStable, alike.isUnstable]
  split
  · exact alike
  · dsimp only
    split
    · exact .refl _
    · exact .refl _
    · exact alike

/-- Interfaces, abstract classes and concrete classes are judged in any order of their
properties. -/
theorem alike_openClass (judge : Judge) (parts : ∀ part, (outcome part).Alike (outcome' part))
    (rearranged : declaration.Rearranged declaration') :
    Alike (judge.openClass (m := Id) outcome declaration)
      (judge.openClass (m := Id) outcome' declaration') := by
  have members := alike_withInference rearranged
    (alike_concreteClass judge.catalog parts rearranged)
  obtain ⟨-⟩ := rearranged
  unfold openClass
  split
  · exact .refl _
  · split
    · exact .refl _
    · exact members

/-- A marked declaration is judged by its properties in any order. -/
theorem markedClass_eq (parts : ∀ part, (outcome part).Alike (outcome' part))
    (rearranged : declaration.Rearranged declaration') :
    markedClass (m := Id) outcome' declaration' = markedClass (m := Id) outcome declaration := by
  rw [markedClass_id, markedClass_id, rearranged.mutableCount_eq,
    all_isStable_eq parts rearranged]

/-- A declaration is judged by the same rule in any order of its properties. -/
theorem alike_classRules (judge : Judge) (parts : ∀ part, (outcome part).Alike (outcome' part))
    (rearranged : declaration.Rearranged declaration') :
    Alike (judge.classRules (m := Id) outcome declaration)
      (judge.classRules (m := Id) outcome' declaration') := by
  have wraps := alike_valueClass parts rearranged
  have marked := markedClass_eq parts rearranged
  have rest := alike_openClass judge parts rearranged
  obtain @⟨properties, -⟩ := rearranged
  -- The rules before look at nothing that the order of the properties changes.
  have early : judge.ownOutcome? { declaration with properties := properties } =
      judge.ownOutcome? declaration := rfl
  cases own : judge.ownOutcome? declaration with
  | some result =>
    rw [classRules, classRules, early, own]
    exact .refl _
  | none =>
    rw [own] at early
    by_cases value : declaration.kind = .value
    · rw [classRules_of_value own value, classRules_of_value early value]
      exact wraps
    · by_cases single : declaration.kind = .enumeration
      · rw [classRules_of_enumeration own single, classRules_of_enumeration early single]
        exact .refl _
      · cases marker : judge.catalog.hasMarkerAnnotation declaration.annotations with
        | true =>
          rw [classRules_of_marked own value single marker,
            classRules_of_marked early value single marker, marked]
          cases markedClass (m := Id) outcome declaration with
          | none => exact rest
          | some result => exact .refl _
        | false =>
          rw [classRules_of_unmarked own value single marker,
            classRules_of_unmarked early value single marker]
          exact rest

/-- A declaration of any kind is judged alike in any order of its properties. -/
theorem alike_analyzeClass (judge : Judge) (parts : ∀ part, (outcome part).Alike (outcome' part))
    (rearranged : declaration.Rearranged declaration') (guard : DeclarationGuard) :
    Alike (judge.analyzeClass (m := Id) outcome declaration guard : Classification × _).1
      (judge.analyzeClass (m := Id) outcome' declaration' guard : Classification × _).1 := by
  have rules := alike_classRules judge parts rearranged
  obtain ⟨perm⟩ := rearranged
  unfold analyzeClass
  split
  · exact .refl _
  · split
    · exact .refl _
    · exact rules

/-- A reference makes of its declaration the same in any order of the properties. -/
theorem alike_declarationOutcome (judge : Judge)
    (parts : ∀ part, (outcome part).Alike (outcome' part)) (annotations : List String)
    (rearranged : declaration.Rearranged declaration') :
    Alike (judge.declarationOutcome (m := Id) outcome annotations declaration)
      (judge.declarationOutcome (m := Id) outcome' annotations declaration') := by
  have rules := alike_analyzeClass judge parts rearranged .empty
  obtain ⟨perm⟩ := rearranged
  unfold declarationOutcome
  dsimp only
  split
  · exact .refl _
  · exact rules

end

end Judge

end StableTypes
