import StableTypes.Proofs.CombinedVerdict
import StableTypes.Proofs.GuardedOutcome

/-!
# What a stable or an unstable verdict of the rules rests on

With the outcomes of the parts given by a function, each rule is a computation
without effects. Here each of them is read backwards: which rule gave the outcome of
a declaration, and what a verdict of that rule rests on. A declaration is unstable
only for a mutable collection, a property that can be assigned, or a part that is
unstable; an outcome that run time decides is neither stable nor unstable.
-/

namespace StableTypes

/-- A class whose members are looked at: no interface, and not abstract. -/
structure Declaration.IsConcrete (declaration : Declaration) : Prop where
  /-- It is a class. -/
  kind : declaration.kind = .plain
  /-- It can be instantiated. -/
  modality : declaration.modality ≠ .abstract

/-- No property can be assigned. -/
def Declaration.NoneMutable (declaration : Declaration) : Prop :=
  ∀ property ∈ declaration.properties, property.mutable = false

/-- A rule that looks only at the names, the annotations or the kind of a declaration
calls it stable. -/
inductive Judge.StableByItself (judge : Judge) (declaration : Declaration) : Prop
  /-- The policy leaves the name out. -/
  | ignored : judge.policy.isIgnored declaration.displayName = true →
      StableByItself judge declaration
  /-- The user vouches for the name. -/
  | customStable : judge.policy.isCustomStable declaration.displayName = true →
      StableByItself judge declaration
  /-- The catalog knows the qualified name to be stable. -/
  | knownStable {name : String} : declaration.qualifiedName = some name →
      judge.catalog.isKnownStable name = true → StableByItself judge declaration
  /-- The catalog knows the simple name to be stable. -/
  | knownStableSimpleName : judge.catalog.isKnownStableSimpleName declaration.simpleName = true →
      StableByItself judge declaration
  /-- An annotation promises stability. -/
  | annotated : judge.catalog.hasStableAnnotation declaration.annotations = true →
      StableByItself judge declaration
  /-- A primitive type. -/
  | primitive {name : String} : declaration.qualifiedName = some name →
      judge.catalog.isPrimitive name = true → StableByItself judge declaration
  /-- A type of texts. -/
  | string {name : String} : declaration.qualifiedName = some name →
      judge.catalog.isString name = true → StableByItself judge declaration
  /-- A type without information. -/
  | unit {name : String} : declaration.qualifiedName = some name →
      judge.catalog.isUnitLike name = true → StableByItself judge declaration
  /-- A function interface. -/
  | functionInterface {name : String} : declaration.qualifiedName = some name →
      judge.catalog.isFunctionInterface name = true → StableByItself judge declaration
  /-- An immutable collection. -/
  | immutableCollection :
      judge.catalog.isImmutableCollection declaration.qualifiedName declaration.simpleName = true →
      StableByItself judge declaration
  /-- An enumeration. -/
  | enumeration : declaration.kind = .enumeration → StableByItself judge declaration

/-- The declaration can itself be changed in place. -/
inductive Judge.Mutable (judge : Judge) (declaration : Declaration) : Prop
  /-- The catalog lists it as a mutable collection. -/
  | collection {name : String} : declaration.qualifiedName = some name →
      judge.catalog.isMutableCollection name = true → Mutable judge declaration
  /-- It has a property that can be assigned. -/
  | property {property : Property} : property ∈ declaration.properties →
      property.mutable = true → Mutable judge declaration

/-- No property counts as mutable exactly if none can be assigned. -/
theorem Declaration.mutableCount_eq_zero {declaration : Declaration} :
    declaration.mutableCount = 0 ↔ declaration.NoneMutable := by
  simp [mutableCount, NoneMutable]

/-- Some property counts as mutable exactly if not all properties are fixed. -/
theorem Declaration.mutableCount_pos {declaration : Declaration} :
    0 < declaration.mutableCount ↔ ¬ declaration.NoneMutable := by
  rw [← mutableCount_eq_zero]
  omega

namespace Judge

section

variable {outcome : TypeRef → Classification} {declaration : Declaration} {catalog : Catalog}

/-- Without effects the search for a property that is not stable is a test of all. -/
theorem allStable_id (properties : List Property) :
    allStable (m := Id) outcome properties =
      properties.all fun property => (outcome property.type).isStable := by
  induction properties with
  | nil => rfl
  | cons property properties ih =>
    rw [List.all_cons, ← ih]
    change (if (outcome property.type).isStable = true then _ else _) = _
    cases (outcome property.type).isStable <;> rfl

/-- Without effects the outcomes of properties are listed in order. -/
theorem propertyOutcomes_id (properties : List Property) :
    propertyOutcomes (m := Id) outcome properties =
      properties.map fun property => (property.name, outcome property.type) := by
  induction properties with
  | nil => rfl
  | cons property properties ih =>
    rw [List.map_cons, ← ih]
    rfl

/-- Without effects the first supertype decides that is neither a root type nor stable. -/
theorem supertypesOutcome?_id (supertypes : List TypeRef) :
    supertypesOutcome? (m := Id) catalog outcome supertypes =
      (supertypes.find? fun supertype =>
        !isRoot catalog supertype && !(outcome supertype).isStable).map fun supertype =>
          inheritedOutcome supertype (outcome supertype) := by
  induction supertypes with
  | nil => rfl
  | cons supertype supertypes ih =>
    change (if isRoot catalog supertype = true then
        supertypesOutcome? (m := Id) catalog outcome supertypes
      else if (outcome supertype).isStable = true then
        supertypesOutcome? (m := Id) catalog outcome supertypes
      else some (inheritedOutcome supertype (outcome supertype))) = _
    rw [ih, List.find?_cons]
    cases isRoot catalog supertype <;> cases (outcome supertype).isStable <;> rfl

/-- What is inherited from a type that is not stable is not stable. -/
theorem inheritedOutcome_isStable {supertype : TypeRef} {inherited : Classification}
    (h : inherited.isStable = false) : (inheritedOutcome supertype inherited).isStable = false := by
  cases inherited <;> first | rfl | exact h

/-- What is inherited is unstable only from an unstable type. -/
theorem inheritedOutcome_isUnstable {supertype : TypeRef} {inherited : Classification}
    (h : (inheritedOutcome supertype inherited).isUnstable = true) :
    inherited.isUnstable = true := by
  cases inherited <;> exact h

/-- Members put together are stable only if all properties are and nothing is inherited. -/
theorem isStable_membersOutcome {outcomes : List (String × Classification)}
    {inherited : Option Classification} (bad : ∀ c, inherited = some c → c.isStable = false)
    (h : (membersOutcome outcomes inherited).isStable = true) :
    (∀ entry ∈ outcomes, entry.2.isStable = true) ∧ inherited = none := by
  unfold membersOutcome at h
  dsimp only at h
  split at h
  · split at h
    next nothing =>
      rw [List.isEmpty_iff, List.append_eq_nil_iff] at nothing
      refine ⟨fun entry member => ?_, by simpa using nothing.2⟩
      have stable := List.filter_eq_nil_iff.mp nothing.1 entry.2 (List.mem_map_of_mem member)
      simpa using stable
    next something =>
      -- Nothing stable is put into the combination, and something is.
      refine absurd ?_ something
      rw [Classification.isStable_combine_iff] at h
      refine List.isEmpty_iff.mpr (List.eq_nil_iff_forall_not_mem.mpr fun c member => ?_)
      have stable := h c member
      rcases List.mem_append.mp member with own | inherits
      · simp [stable] at own
      · simp [bad c (by simpa using inherits)] at stable
  · cases h

/-- Members put together are unstable only if a property is or what is inherited is. -/
theorem isUnstable_membersOutcome {outcomes : List (String × Classification)}
    {inherited : Option Classification}
    (h : (membersOutcome outcomes inherited).isUnstable = true) :
    (∃ entry ∈ outcomes, entry.2.isUnstable = true) ∨
      ∃ c, inherited = some c ∧ c.isUnstable = true := by
  unfold membersOutcome at h
  dsimp only at h
  split at h
  · split at h
    · cases h
    · obtain ⟨c, member, unstable⟩ := Classification.isUnstable_combine_iff.mp h
      rcases List.mem_append.mp member with own | inherits
      · obtain ⟨entry, there, rfl⟩ := List.mem_map.mp (List.mem_of_mem_filter own)
        exact .inl ⟨entry, there, unstable⟩
      · exact .inr ⟨c, by simpa using inherits, unstable⟩
  next names =>
    simp only [List.isEmpty_iff, List.map_eq_nil_iff, List.filter_eq_nil_iff, not_forall] at names
    obtain ⟨entry, member, unstable⟩ := names
    exact .inl ⟨entry, member, by simpa using unstable⟩

/-- A supertype that is passed on is neither a root type nor stable. -/
theorem supertypesOutcome?_eq_some {supertypes : List TypeRef} {inherited : Classification}
    (h : supertypesOutcome? (m := Id) catalog outcome supertypes = some inherited) :
    ∃ supertype ∈ supertypes, isRoot catalog supertype = false ∧
      (outcome supertype).isStable = false ∧
      inherited = inheritedOutcome supertype (outcome supertype) := by
  rw [supertypesOutcome?_id] at h
  obtain ⟨supertype, found, rfl⟩ := Option.map_eq_some_iff.mp h
  have fails := List.find?_some found
  simp only [Bool.and_eq_true, Bool.not_eq_true'] at fails
  exact ⟨supertype, List.mem_of_find?_eq_some found, fails.1, fails.2, rfl⟩

/-- Where nothing is passed on, all supertypes but root types are stable. -/
theorem supertypesOutcome?_eq_none {supertypes : List TypeRef}
    (h : supertypesOutcome? (m := Id) catalog outcome supertypes = none) :
    ∀ supertype ∈ supertypes, isRoot catalog supertype = false →
      (outcome supertype).isStable = true := by
  rw [supertypesOutcome?_id] at h
  intro supertype member root
  have passes := List.find?_eq_none.mp (Option.map_eq_none_iff.mp h) supertype member
  simpa [root] using passes

/-- Without effects a concrete class is decided by its properties, and by what it inherits
where they do not decide. -/
theorem concreteClass_id :
    concreteClass (m := Id) catalog outcome declaration =
      if declaration.properties.isEmpty then
        (supertypesOutcome? (m := Id) catalog outcome declaration.supertypes).getD
          (.stable Reason.noMutableState)
      else if 0 < declaration.mutableCount then
        .unstable (Reason.mutableProperties declaration.mutableCount)
      else
        membersOutcome
          (declaration.properties.map fun property => (property.name, outcome property.type))
          (supertypesOutcome? (m := Id) catalog outcome declaration.supertypes) := by
  rw [← propertyOutcomes_id]
  rfl

/-- A concrete class is stable by its members only if no property can be assigned and all
properties and supertypes are stable, root types apart. -/
theorem isStable_concreteClass
    (h : (concreteClass (m := Id) catalog outcome declaration : Classification).isStable = true) :
    declaration.NoneMutable ∧
      (∀ property ∈ declaration.properties, (outcome property.type).isStable = true) ∧
      (∀ supertype ∈ declaration.supertypes, isRoot catalog supertype = false →
        (outcome supertype).isStable = true) := by
  have bad : ∀ c, supertypesOutcome? (m := Id) catalog outcome declaration.supertypes = some c →
      c.isStable = false := by
    intro c passed
    obtain ⟨supertype, -, -, unstable, rfl⟩ := supertypesOutcome?_eq_some passed
    exact inheritedOutcome_isStable unstable
  rw [concreteClass_id] at h
  split at h
  next empty =>
    have nothing : supertypesOutcome? (m := Id) catalog outcome declaration.supertypes = none := by
      cases passed : supertypesOutcome? (m := Id) catalog outcome declaration.supertypes with
      | none => rfl
      | some c =>
        rw [passed, Option.getD_some, bad c passed] at h
        cases h
    rw [List.isEmpty_iff] at empty
    refine ⟨?_, ?_, supertypesOutcome?_eq_none nothing⟩
    · simp [Declaration.NoneMutable, empty]
    · simp [empty]
  · split at h
    · cases h
    next unassigned =>
      obtain ⟨properties, nothing⟩ := isStable_membersOutcome bad h
      refine ⟨Declaration.mutableCount_eq_zero.mp (by omega), fun property member => ?_,
        supertypesOutcome?_eq_none nothing⟩
      exact properties _ (List.mem_map_of_mem member)

/-- A concrete class is unstable by its members only if a property can be assigned, or a
property or a supertype is unstable. -/
theorem isUnstable_concreteClass
    (h : (concreteClass (m := Id) catalog outcome declaration : Classification).isUnstable = true) :
    ¬ declaration.NoneMutable ∨
      ∃ part, catalog.Part declaration part ∧ (outcome part).isUnstable = true := by
  have inherits : ∀ c,
      supertypesOutcome? (m := Id) catalog outcome declaration.supertypes = some c →
      c.isUnstable = true →
        ∃ part, catalog.Part declaration part ∧ (outcome part).isUnstable = true := by
    intro c passed unstable
    obtain ⟨supertype, there, root, -, rfl⟩ := supertypesOutcome?_eq_some passed
    exact ⟨supertype, .supertype there root, inheritedOutcome_isUnstable unstable⟩
  rw [concreteClass_id] at h
  split at h
  · cases inherited : supertypesOutcome? (m := Id) catalog outcome declaration.supertypes with
    | none =>
      rw [inherited] at h
      cases h
    | some c =>
      rw [inherited] at h
      exact .inr (inherits c inherited h)
  · split at h
    next assigned => exact .inl (Declaration.mutableCount_pos.mp assigned)
    · rcases isUnstable_membersOutcome h with ⟨entry, member, unstable⟩ | ⟨c, member, unstable⟩
      · obtain ⟨property, there, rfl⟩ := List.mem_map.mp member
        exact .inr ⟨_, .property there, unstable⟩
      · exact .inr (inherits c member unstable)

/-- Without effects a marked declaration is decided by its properties. -/
theorem markedClass_id :
    markedClass (m := Id) outcome declaration =
      if 0 < declaration.mutableCount then
        some (.unstable (Reason.mutableProperties declaration.mutableCount))
      else if declaration.properties.all fun property => (outcome property.type).isStable then
        some (.stable Reason.markerStable)
      else none := by
  rw [← allStable_id]
  rfl

/-- Without effects a value class takes the verdict of the type it wraps. -/
theorem valueClass_verdict {property : Property} (h : declaration.wrapped = some property) :
    (valueClass (m := Id) outcome declaration : Classification).isStable =
        (outcome property.type).isStable ∧
      (valueClass (m := Id) outcome declaration : Classification).isUnstable =
        (outcome property.type).isUnstable := by
  unfold valueClass
  rw [h]
  dsimp only
  generalize outcome property.type = verdict
  cases verdict <;> exact ⟨rfl, rfl⟩

end

/-- The rule that gives the outcome of a declaration of a known kind, given the outcomes of
the parts. -/
inductive RuledBy (judge : Judge) (outcome : TypeRef → Classification)
    (declaration : Declaration) : Classification → Prop
  /-- One of the rules for names and annotations. -/
  | own {result : Classification} : judge.ownOutcome? declaration = some result →
      RuledBy judge outcome declaration result
  /-- A value class takes the verdict of the type that it wraps. -/
  | wrapped {result : Classification} {property : Property} : declaration.kind = .value →
      declaration.wrapped = some property →
      result.isStable = (outcome property.type).isStable →
      result.isUnstable = (outcome property.type).isUnstable →
      RuledBy judge outcome declaration result
  /-- An enumeration is stable. -/
  | enumeration {reason : String} : declaration.kind = .enumeration →
      RuledBy judge outcome declaration (.stable reason)
  /-- A marked declaration with properties that can be assigned is unstable. -/
  | assignable {reason : String} : ¬ declaration.NoneMutable →
      RuledBy judge outcome declaration (.unstable reason)
  /-- A marked declaration with stable properties is stable. -/
  | marked {reason : String} :
      judge.catalog.hasMarkerAnnotation declaration.annotations = true →
      declaration.NoneMutable →
      (∀ property ∈ declaration.properties, (outcome property.type).isStable = true) →
      RuledBy judge outcome declaration (.stable reason)
  /-- A previous compilation found the concrete class to be stable. -/
  | inferred {reason : String} : declaration.IsConcrete →
      declaration.inferredParameters = some 0 →
      RuledBy judge outcome declaration (.stable reason)
  /-- The members of a concrete class decide. -/
  | members : declaration.IsConcrete →
      RuledBy judge outcome declaration (concreteClass (m := Id) judge.catalog outcome declaration)
  /-- Interfaces, abstract classes and value classes that wrap nothing are left to run time,
  and so is what a previous compilation found to depend on type arguments. -/
  | undecided {result : Classification} : result.isStable = false → result.isUnstable = false →
      RuledBy judge outcome declaration result

section

variable {judge : Judge} {outcome : TypeRef → Classification} {declaration : Declaration}

/-- A class that is neither a value class nor an enumeration is left to run time, or its
members or a previous compilation decide. -/
theorem ruledBy_openClass (known : declaration.kind ≠ .unknown) (plain : declaration.kind ≠ .value)
    (single : declaration.kind ≠ .enumeration) :
    judge.RuledBy outcome declaration (judge.openClass (m := Id) outcome declaration) := by
  unfold openClass
  split
  · exact .undecided rfl rfl
  next closed =>
    split
    · exact .undecided rfl rfl
    next modality =>
      have concrete : declaration.IsConcrete := by
        refine ⟨?_, modality⟩
        cases kind : declaration.kind <;> simp_all
      change judge.RuledBy outcome declaration
        (withInference declaration (concreteClass (m := Id) judge.catalog outcome declaration))
      unfold withInference
      split
      · exact .members concrete
      · split
        next inferred => exact .inferred concrete inferred
        · exact .undecided rfl rfl
        · exact .members concrete

/-- Each outcome of the rules is that of one of them. -/
theorem ruledBy_classRules (known : declaration.kind ≠ .unknown) :
    judge.RuledBy outcome declaration (judge.classRules (m := Id) outcome declaration) := by
  unfold classRules
  split
  next own => exact .own own
  · split
    next value =>
      cases wraps : declaration.wrapped with
      | none =>
        rw [valueClass, wraps]
        exact .undecided rfl rfl
      | some property =>
        exact .wrapped value wraps (valueClass_verdict wraps).1 (valueClass_verdict wraps).2
    next plain =>
      split
      next single => exact .enumeration single
      next single =>
        split
        next marker =>
          change judge.RuledBy outcome declaration
            (match markedClass (m := Id) outcome declaration with
              | some result => result
              | none => judge.openClass (m := Id) outcome declaration)
          rw [markedClass_id]
          by_cases assigned : 0 < declaration.mutableCount
          · rw [if_pos assigned]
            exact .assignable (Declaration.mutableCount_pos.mp assigned)
          · have fixed : declaration.NoneMutable :=
              Declaration.mutableCount_eq_zero.mp (by omega)
            rw [if_neg assigned]
            by_cases stable :
                (declaration.properties.all fun property => (outcome property.type).isStable) = true
            · rw [if_pos stable]
              exact .marked marker fixed (List.all_eq_true.mp stable)
            · rw [if_neg stable]
              exact ruledBy_openClass known plain single
        · exact ruledBy_openClass known plain single

/-- A stable outcome of the rules for qualified names rests on the name. -/
theorem stableByItself_of_nameOutcome? {name : String} {own : Classification}
    (named : declaration.qualifiedName = some name)
    (h : nameOutcome? judge.catalog name = some own) (stable : own.isStable = true) :
    judge.StableByItself declaration := by
  unfold nameOutcome? at h
  split at h
  next primitive => exact .primitive named primitive
  split at h
  next string => exact .string named string
  split at h
  next unit => exact .unit named unit
  split at h
  next function => exact .functionInterface named function
  split at h
  · cases h
    cases stable
  · cases h

/-- An unstable outcome of the rules for qualified names is that of a mutable collection. -/
theorem mutable_of_nameOutcome? {name : String} {own : Classification}
    (named : declaration.qualifiedName = some name)
    (h : nameOutcome? judge.catalog name = some own) (unstable : own.isUnstable = true) :
    judge.Mutable declaration := by
  unfold nameOutcome? at h
  iterate 4
    split at h
    · cases h
      cases unstable
  split at h
  next collection => exact .collection named collection
  · cases h

/-- A stable outcome of the rules for names and annotations rests on these alone. -/
theorem stableByItself_of_ownOutcome? {own : Classification}
    (h : judge.ownOutcome? declaration = some own) (stable : own.isStable = true) :
    judge.StableByItself declaration := by
  unfold ownOutcome? at h
  dsimp only at h
  split at h
  next ignored => exact .ignored ignored
  split at h
  next vouched => exact .customStable vouched
  split at h
  next known =>
    obtain ⟨name, named, listed⟩ := (Option.any_eq_true _ _).mp known
    exact .knownStable named listed
  split at h
  next known => exact .knownStableSimpleName known
  split at h
  next annotated => exact .annotated annotated
  split at h
  next result bound =>
    cases h
    obtain ⟨name, named, decided⟩ := Option.bind_eq_some_iff.mp bound
    exact stableByItself_of_nameOutcome? named decided stable
  split at h
  next immutable => exact .immutableCollection immutable
  split at h
  · cases h
    cases stable
  · cases h

/-- An unstable outcome of the rules for names and annotations is that of a mutable
collection. -/
theorem mutable_of_ownOutcome? {own : Classification}
    (h : judge.ownOutcome? declaration = some own) (unstable : own.isUnstable = true) :
    judge.Mutable declaration := by
  unfold ownOutcome? at h
  dsimp only at h
  iterate 5
    split at h
    · cases h
      cases unstable
  split at h
  next result bound =>
    cases h
    obtain ⟨name, named, decided⟩ := Option.bind_eq_some_iff.mp bound
    exact mutable_of_nameOutcome? named decided unstable
  iterate 2
    split at h
    · cases h
      cases unstable
  cases h

end

end Judge

end StableTypes
