import StableTypes.Proofs.UnstableWitness

/-!
# How verdicts of parts carry over

The outcome of a type is fixed by the type alone, or it is that of the rules for its
declaration, given the outcomes of the parts. Of the rules it is known here how far
verdicts carry over from one choice of outcomes for the parts to another: which verdicts
of the parts have to carry over for a stable outcome to stay stable, and which for an
unstable one to stay unstable. Two rules get in the way. A class that a previous
compilation found to be stable is stable only until a part is unstable, and a marked
class is judged by its supertypes only if a property is not stable.
-/

namespace StableTypes

/-- No outcome is both stable and unstable. -/
theorem Classification.isUnstable_of_isStable {outcome : Classification}
    (stable : outcome.isStable = true) : outcome.isUnstable = false := by
  rw [Bool.eq_false_iff]
  intro unstable
  obtain ⟨leaf, member, bad⟩ := isUnstable_iff_leaves outcome |>.mp unstable
  have good := isStable_iff_leaves outcome |>.mp stable leaf member
  have plain := leaves_not_combined outcome leaf member
  cases leaf <;> simp [isStable, isUnstable, isCombined] at good bad plain

/-- The verdict is stable exactly if the outcome is. -/
theorem Classification.verdict_eq_stable_iff {outcome : Classification} :
    outcome.verdict = .stable ↔ outcome.isStable = true := by
  unfold verdict
  cases outcome.isStable <;> cases outcome.isUnstable <;> decide

/-- The verdict is unstable exactly if the outcome is. -/
theorem Classification.verdict_eq_unstable_iff {outcome : Classification} :
    outcome.verdict = .unstable ↔ outcome.isUnstable = true := by
  unfold verdict
  cases stable : outcome.isStable with
  | true => simp [isUnstable_of_isStable stable]
  | false => cases outcome.isUnstable <;> decide

namespace Judge

/-- The judge that goes by another policy. -/
def withPolicy (judge : Judge) (policy : Policy) : Judge := { judge with policy := policy }

@[simp] theorem withPolicy_self (judge : Judge) : judge.withPolicy judge.policy = judge := rfl

@[simp] theorem model_withPolicy (judge : Judge) (policy : Policy) :
    (judge.withPolicy policy).model = judge.model := rfl

@[simp] theorem catalog_withPolicy (judge : Judge) (policy : Policy) :
    (judge.withPolicy policy).catalog = judge.catalog := rfl

section

variable {outcome outcome' : TypeRef → Classification} {declaration : Declaration}
  {catalog : Catalog}

/-- What is inherited is unstable exactly from an unstable type. -/
theorem inheritedOutcome_isUnstable_iff {supertype : TypeRef} {inherited : Classification} :
    (inheritedOutcome supertype inherited).isUnstable = true ↔ inherited.isUnstable = true := by
  cases inherited <;> rfl

/-- Members put together are unstable if a property is or what is inherited is. -/
theorem isUnstable_membersOutcome_of {outcomes : List (String × Classification)}
    {inherited : Option Classification}
    (h : (∃ entry ∈ outcomes, entry.2.isUnstable = true) ∨
      ∃ c, inherited = some c ∧ c.isUnstable = true) :
    (membersOutcome outcomes inherited).isUnstable = true := by
  unfold membersOutcome
  dsimp only
  split
  next calm =>
    rcases h with ⟨entry, member, unstable⟩ | ⟨c, rfl, unstable⟩
    · rw [List.isEmpty_iff, List.map_eq_nil_iff, List.filter_eq_nil_iff] at calm
      exact absurd unstable (calm entry member)
    · rw [if_neg (by simp)]
      exact Classification.isUnstable_combine_iff.mpr ⟨c, by simp, unstable⟩
  · rfl

/-- Members put together are stable if all properties are and nothing is inherited. -/
theorem isStable_membersOutcome_of {outcomes : List (String × Classification)}
    (h : ∀ entry ∈ outcomes, entry.2.isStable = true) :
    (membersOutcome outcomes none).isStable = true := by
  have calm : outcomes.filter (·.2.isUnstable) = [] :=
    List.filter_eq_nil_iff.mpr fun entry member => by
      simp [Classification.isUnstable_of_isStable (h entry member)]
  have stable : (outcomes.map (·.2)).filter (!·.isStable) = [] :=
    List.filter_eq_nil_iff.mpr fun c member => by
      obtain ⟨entry, there, rfl⟩ := List.mem_map.mp member
      simp [h entry there]
  simp [membersOutcome, calm, stable, Classification.isStable]

/-- Where all supertypes but root types are stable, nothing is passed on. -/
theorem supertypesOutcome?_eq_none_of {supertypes : List TypeRef}
    (h : ∀ supertype ∈ supertypes, isRoot catalog supertype = false →
      (outcome supertype).isStable = true) :
    supertypesOutcome? (m := Id) catalog outcome supertypes = none := by
  rw [supertypesOutcome?_id, Option.map_eq_none_iff, List.find?_eq_none]
  intro supertype member
  cases root : isRoot catalog supertype with
  | true => simp
  | false => simp [h supertype member root]

/-- A concrete class is stable by its members exactly if no property can be assigned and all
properties and supertypes are stable, root types apart. -/
theorem isStable_concreteClass_iff :
    (concreteClass (m := Id) catalog outcome declaration : Classification).isStable = true ↔
      declaration.NoneMutable ∧
      (∀ property ∈ declaration.properties, (outcome property.type).isStable = true) ∧
      (∀ supertype ∈ declaration.supertypes, isRoot catalog supertype = false →
        (outcome supertype).isStable = true) := by
  refine ⟨isStable_concreteClass, fun parts => ?_⟩
  obtain ⟨fixed, properties, supertypes⟩ := parts
  rw [concreteClass_id, supertypesOutcome?_eq_none_of supertypes]
  split
  · rfl
  · rw [if_neg (by simp [Declaration.mutableCount_eq_zero.mpr fixed])]
    refine isStable_membersOutcome_of fun entry member => ?_
    obtain ⟨property, there, rfl⟩ := List.mem_map.mp member
    exact properties property there

/-- A concrete class is unstable by its members exactly if a property can be assigned, a
property is unstable, or the first supertype that is not stable is. -/
theorem isUnstable_concreteClass_iff :
    (concreteClass (m := Id) catalog outcome declaration : Classification).isUnstable = true ↔
      ¬ declaration.NoneMutable ∨
      (∃ property ∈ declaration.properties, (outcome property.type).isUnstable = true) ∨
      ∃ inherited, supertypesOutcome? (m := Id) catalog outcome declaration.supertypes =
        some inherited ∧ inherited.isUnstable = true := by
  rw [concreteClass_id]
  by_cases empty : declaration.properties.isEmpty = true
  · rw [if_pos empty]
    rw [List.isEmpty_iff] at empty
    have fixed : declaration.NoneMutable := by simp [Declaration.NoneMutable, empty]
    constructor
    · intro unstable
      cases passed : supertypesOutcome? (m := Id) catalog outcome declaration.supertypes with
      | none =>
        rw [passed] at unstable
        cases unstable
      | some inherited =>
        rw [passed] at unstable
        exact .inr (.inr ⟨inherited, rfl, unstable⟩)
    · rintro (assigned | ⟨property, there, -⟩ | ⟨inherited, passed, bad⟩)
      · exact absurd fixed assigned
      · rw [empty] at there
        cases there
      · rw [passed]
        exact bad
  · rw [if_neg empty]
    by_cases fixed : declaration.NoneMutable
    · rw [if_neg (by simp [Declaration.mutableCount_eq_zero.mpr fixed])]
      constructor
      · intro unstable
        rcases isUnstable_membersOutcome unstable with ⟨entry, member, bad⟩ | inherits
        · obtain ⟨property, there, rfl⟩ := List.mem_map.mp member
          exact .inr (.inl ⟨property, there, bad⟩)
        · exact .inr (.inr inherits)
      · rintro (assigned | ⟨property, there, bad⟩ | inherits)
        · exact absurd fixed assigned
        · exact isUnstable_membersOutcome_of (.inl ⟨_, List.mem_map_of_mem there, bad⟩)
        · exact isUnstable_membersOutcome_of (.inr inherits)
    · rw [if_pos (Declaration.mutableCount_pos.mpr fixed)]
      exact ⟨fun _ => .inl fixed, fun _ => rfl⟩

/-- An unstable outcome of the supertypes carries over where those that are stable and those
that are unstable do. -/
theorem supertypesOutcome?_carries {supertypes : List TypeRef}
    (stable : ∀ supertype ∈ supertypes, isRoot catalog supertype = false →
      (outcome supertype).isStable = true → (outcome' supertype).isStable = true)
    (unstable : ∀ supertype ∈ supertypes, isRoot catalog supertype = false →
      (outcome supertype).isUnstable = true → (outcome' supertype).isUnstable = true)
    {inherited : Classification}
    (passed : supertypesOutcome? (m := Id) catalog outcome supertypes = some inherited)
    (bad : inherited.isUnstable = true) :
    ∃ inherited', supertypesOutcome? (m := Id) catalog outcome' supertypes = some inherited' ∧
      inherited'.isUnstable = true := by
  induction supertypes with
  | nil => cases passed
  | cons supertype supertypes ih =>
    have rest := ih (fun other member => stable other (.tail _ member))
      (fun other member => unstable other (.tail _ member))
    change (if isRoot catalog supertype = true then
        supertypesOutcome? (m := Id) catalog outcome supertypes
      else if (outcome supertype).isStable = true then
        supertypesOutcome? (m := Id) catalog outcome supertypes
      else some (inheritedOutcome supertype (outcome supertype))) = some inherited at passed
    change ∃ inherited', (if isRoot catalog supertype = true then
        supertypesOutcome? (m := Id) catalog outcome' supertypes
      else if (outcome' supertype).isStable = true then
        supertypesOutcome? (m := Id) catalog outcome' supertypes
      else some (inheritedOutcome supertype (outcome' supertype))) = some inherited' ∧ _
    by_cases root : isRoot catalog supertype = true
    · rw [if_pos root] at passed ⊢
      exact rest passed
    · rw [if_neg root] at passed ⊢
      rw [Bool.not_eq_true] at root
      by_cases good : (outcome supertype).isStable = true
      · rw [if_pos good] at passed
        rw [if_pos (stable supertype (.head _) root good)]
        exact rest passed
      · rw [if_neg good] at passed
        cases passed
        have worse := unstable supertype (.head _) root (inheritedOutcome_isUnstable_iff.mp bad)
        have notStable : ¬ (outcome' supertype).isStable = true := fun good' => by
          rw [Classification.isUnstable_of_isStable good'] at worse
          cases worse
        rw [if_neg notStable]
        exact ⟨_, rfl, inheritedOutcome_isUnstable_iff.mpr worse⟩

/-- A concrete class stays unstable where its stable and its unstable parts stay what they
are. -/
theorem isUnstable_concreteClass_carries
    (stable : ∀ part, catalog.Part declaration part → (outcome part).isStable = true →
      (outcome' part).isStable = true)
    (unstable : ∀ part, catalog.Part declaration part → (outcome part).isUnstable = true →
      (outcome' part).isUnstable = true)
    (h : (concreteClass (m := Id) catalog outcome declaration : Classification).isUnstable = true) :
    (concreteClass (m := Id) catalog outcome' declaration : Classification).isUnstable = true := by
  rw [isUnstable_concreteClass_iff] at h ⊢
  rcases h with assigned | ⟨property, there, bad⟩ | ⟨inherited, passed, bad⟩
  · exact .inl assigned
  · exact .inr (.inl ⟨property, there, unstable _ (.property there) bad⟩)
  · refine .inr (.inr (supertypesOutcome?_carries ?_ ?_ passed bad))
    · exact fun supertype there root => stable supertype (.supertype there root)
    · exact fun supertype there root => unstable supertype (.supertype there root)

/-- What a previous compilation found makes an outcome stable that decides nothing. -/
theorem isStable_withInference_iff {members : Classification} :
    (withInference declaration members).isStable = true ↔
      members.isStable = true ∨
        (members.isUnstable = false ∧ declaration.inferredParameters = some 0) := by
  unfold withInference
  cases stable : members.isStable with
  | true => simp [stable]
  | false =>
    cases unstable : members.isUnstable with
    | true => simp [stable]
    | false =>
      rw [if_neg (by simp)]
      split <;> simp_all [Classification.isStable]

/-- What a previous compilation found does not change whether an outcome is unstable. -/
theorem isUnstable_withInference {members : Classification} :
    (withInference declaration members).isUnstable = members.isUnstable := by
  unfold withInference
  split
  · rfl
  next open' =>
    rw [Bool.or_eq_true, not_or, Bool.not_eq_true, Bool.not_eq_true] at open'
    split <;> simp [open'.2, Classification.isUnstable]

end

section

variable {judge : Judge} {outcome outcome' : TypeRef → Classification} {declaration : Declaration}

/-- What the outcome of a declaration depends on. -/
inductive Dependence (judge : Judge) (declaration : Declaration) : Prop
  /-- On the declaration alone. -/
  | fixed (result : Classification) :
      (∀ outcome, judge.classRules (m := Id) outcome declaration = result) →
      Dependence judge declaration
  /-- On the type that a value class wraps. -/
  | wrapped {property : Property} : declaration.wrapped = some property →
      (∀ outcome, (judge.classRules (m := Id) outcome declaration : Classification).isStable =
        (outcome property.type).isStable) →
      (∀ outcome, (judge.classRules (m := Id) outcome declaration : Classification).isUnstable =
        (outcome property.type).isUnstable) → Dependence judge declaration
  /-- On the members. -/
  | members : declaration.kind ≠ .value → declaration.kind ≠ .enumeration →
      (∀ outcome, judge.classRules (m := Id) outcome declaration =
        judge.openClass (m := Id) outcome declaration) → Dependence judge declaration
  /-- On the properties, and on all members if not all properties are stable. -/
  | marked : declaration.kind ≠ .value → declaration.kind ≠ .enumeration →
      judge.catalog.hasMarkerAnnotation declaration.annotations = true →
      declaration.NoneMutable →
      (∀ outcome : TypeRef → Classification,
        (∀ property ∈ declaration.properties, (outcome property.type).isStable = true) →
        judge.classRules (m := Id) outcome declaration = .stable Reason.markerStable) →
      (∀ outcome : TypeRef → Classification,
        ¬ (∀ property ∈ declaration.properties, (outcome property.type).isStable = true) →
        judge.classRules (m := Id) outcome declaration =
          judge.openClass (m := Id) outcome declaration) → Dependence judge declaration

section

variable (own : judge.ownOutcome? declaration = none)
include own

/-- A value class that its names do not decide is judged by what it wraps. -/
theorem classRules_of_value (value : declaration.kind = .value)
    (outcome : TypeRef → Classification) : judge.classRules (m := Id) outcome declaration =
      valueClass (m := Id) outcome declaration := by
  rw [classRules, own]
  exact if_pos value

/-- An enumeration is stable. -/
theorem classRules_of_enumeration (single : declaration.kind = .enumeration)
    (outcome : TypeRef → Classification) : judge.classRules (m := Id) outcome declaration =
      .stable Reason.enumeration := by
  have plain : declaration.kind ≠ .value := by
    rw [single]
    nofun
  rw [classRules, own]
  simp only [if_neg plain, if_pos single]
  rfl

/-- A marked class is judged by its members where the marker does not decide. -/
theorem classRules_of_marked (plain : declaration.kind ≠ .value)
    (single : declaration.kind ≠ .enumeration)
    (marker : judge.catalog.hasMarkerAnnotation declaration.annotations = true)
    (outcome : TypeRef → Classification) : judge.classRules (m := Id) outcome declaration =
      Option.getD (markedClass (m := Id) outcome declaration : Option Classification)
        (judge.openClass (m := Id) outcome declaration) := by
  rw [classRules, own]
  simp only [if_neg plain, if_neg single, if_pos marker]
  generalize markedClass (m := Id) outcome declaration = decided
  cases decided <;> rfl

/-- Any other class is judged by its members. -/
theorem classRules_of_unmarked (plain : declaration.kind ≠ .value)
    (single : declaration.kind ≠ .enumeration)
    (unmarked : judge.catalog.hasMarkerAnnotation declaration.annotations = false)
    (outcome : TypeRef → Classification) : judge.classRules (m := Id) outcome declaration =
      judge.openClass (m := Id) outcome declaration := by
  rw [classRules, own]
  simp only [if_neg plain, if_neg single, unmarked, Bool.false_eq_true, if_false]

/-- The outcome of a marked class depends on it alone if a property can be assigned, and on its
properties otherwise. -/
theorem dependence_of_marked (plain : declaration.kind ≠ .value)
    (single : declaration.kind ≠ .enumeration)
    (marker : judge.catalog.hasMarkerAnnotation declaration.annotations = true) :
    judge.Dependence declaration := by
  have rule := classRules_of_marked own plain single marker
  by_cases assigned : 0 < declaration.mutableCount
  · refine .fixed (.unstable (Reason.mutableProperties declaration.mutableCount)) fun outcome => ?_
    rw [rule, markedClass_id, if_pos assigned]
    rfl
  · refine .marked plain single marker (Declaration.mutableCount_eq_zero.mp (by omega))
      (fun outcome good => ?_) (fun outcome bad => ?_)
    · rw [rule, markedClass_id, if_neg assigned, if_pos (List.all_eq_true.mpr good)]
      rfl
    · rw [rule, markedClass_id, if_neg assigned, if_neg fun good => bad (List.all_eq_true.mp good)]
      rfl

end

/-- The outcome of every declaration depends on it in one of these ways. -/
theorem dependence (judge : Judge) (declaration : Declaration) :
    judge.Dependence declaration := by
  cases own : judge.ownOutcome? declaration with
  | some result =>
    refine .fixed result fun outcome => ?_
    rw [classRules, own]
    rfl
  | none =>
    by_cases value : declaration.kind = .value
    · have rule := classRules_of_value own value
      cases wraps : declaration.wrapped with
      | none =>
        refine .fixed (.runtime declaration.displayName Reason.noWrappedProperty) fun outcome => ?_
        rw [rule, valueClass, wraps]
        rfl
      | some property =>
        refine .wrapped wraps (fun outcome => ?_) (fun outcome => ?_) <;> rw [rule]
        · exact (valueClass_verdict wraps).1
        · exact (valueClass_verdict wraps).2
    · by_cases single : declaration.kind = .enumeration
      · exact .fixed (.stable Reason.enumeration) (classRules_of_enumeration own single)
      · cases marker : judge.catalog.hasMarkerAnnotation declaration.annotations with
        | true => exact dependence_of_marked own value single marker
        | false => exact .members value single (classRules_of_unmarked own value single marker)

/-- Where interfaces and abstract classes do not decide, the class is concrete and its members
and what was found before do. -/
theorem openClass_decides (judge : Judge) (known : declaration.kind ≠ .unknown)
    (plain : declaration.kind ≠ .value) (single : declaration.kind ≠ .enumeration) :
    (∃ result, result.isStable = false ∧ result.isUnstable = false ∧
      ∀ outcome, judge.openClass (m := Id) outcome declaration = result) ∨
    (declaration.IsConcrete ∧ ∀ outcome, judge.openClass (m := Id) outcome declaration =
      withInference declaration
        (concreteClass (m := Id) judge.catalog outcome declaration)) := by
  by_cases interface : declaration.kind = .interface
  · refine .inl ⟨.runtime declaration.displayName Reason.interface, rfl, rfl, fun outcome => ?_⟩
    rw [openClass, if_pos interface]
    rfl
  · by_cases abstract : declaration.modality = .abstract
    · refine .inl ⟨.runtime declaration.displayName Reason.abstract, rfl, rfl, fun outcome => ?_⟩
      rw [openClass, if_neg interface, if_pos abstract]
      rfl
    · refine .inr ⟨⟨?_, abstract⟩, fun outcome => ?_⟩
      · cases kind : declaration.kind <;> simp_all
      · rw [openClass, if_neg interface, if_neg abstract]
        rfl

/-- A concrete class stays stable where its stable parts do, unless it was found to be stable
before and its members now make it unstable. -/
theorem isStable_withInference_carries
    (parts : ∀ part, judge.catalog.Part declaration part → (outcome part).isStable = true →
      (outcome' part).isStable = true)
    (inferred : declaration.inferredParameters = some 0 → declaration.NoneMutable →
      (concreteClass (m := Id) judge.catalog outcome' declaration : Classification).isUnstable =
        false)
    (h : (withInference declaration
      (concreteClass (m := Id) judge.catalog outcome declaration)).isStable = true) :
    (withInference declaration
      (concreteClass (m := Id) judge.catalog outcome' declaration)).isStable = true := by
  rcases isStable_withInference_iff.mp h with members | ⟨undecided, found⟩
  · obtain ⟨fixed, properties, supertypes⟩ := isStable_concreteClass_iff.mp members
    refine isStable_withInference_iff.mpr (.inl (isStable_concreteClass_iff.mpr ⟨fixed, ?_, ?_⟩))
    · exact fun property there => parts _ (.property there) (properties property there)
    · exact fun supertype there root =>
        parts _ (.supertype there root) (supertypes supertype there root)
  · have fixed : declaration.NoneMutable := by
      by_contra assigned
      rw [isUnstable_concreteClass_iff.mpr (.inl assigned)] at undecided
      cases undecided
    exact isStable_withInference_iff.mpr (.inr ⟨inferred found fixed, found⟩)

/-- A declaration stays stable where its stable parts do, unless it was found to be stable before
and is now unstable. -/
theorem isStable_classRules_carries (known : declaration.kind ≠ .unknown)
    (parts : ∀ part, judge.catalog.Part declaration part → (outcome part).isStable = true →
      (outcome' part).isStable = true)
    (inferred : judge.ownOutcome? declaration = none → declaration.IsConcrete →
      declaration.inferredParameters = some 0 → declaration.NoneMutable →
        (judge.classRules (m := Id) outcome' declaration : Classification).isUnstable = false)
    (h : (judge.classRules (m := Id) outcome declaration : Classification).isStable = true) :
    (judge.classRules (m := Id) outcome' declaration : Classification).isStable = true := by
  cases own : judge.ownOutcome? declaration with
  | some result =>
    rw [classRules, own] at h ⊢
    exact h
  | none =>
    have onward (plain : declaration.kind ≠ .value) (single : declaration.kind ≠ .enumeration)
        (rule : judge.classRules (m := Id) outcome' declaration =
          judge.openClass (m := Id) outcome' declaration)
        (h : (judge.openClass (m := Id) outcome declaration : Classification).isStable = true) :
        (judge.openClass (m := Id) outcome' declaration : Classification).isStable = true := by
      rw [rule] at inferred
      rcases openClass_decides judge known plain single with
        ⟨result, notStable, -, decided⟩ | ⟨concrete, decided⟩
      · rw [decided, notStable] at h
        cases h
      · simp only [decided, isUnstable_withInference] at h inferred ⊢
        exact isStable_withInference_carries parts (inferred own concrete) h
    cases judge.dependence declaration with
    | fixed _ rule => rwa [rule] at h ⊢
    | wrapped wraps rule _ =>
      rw [rule] at h ⊢
      exact parts _ (.wrapped wraps) h
    | members plain single rule =>
      rw [rule] at h
      rw [rule outcome']
      exact onward plain single (rule outcome') h
    | marked plain single _ _ all rule =>
      by_cases now : ∀ property ∈ declaration.properties, (outcome' property.type).isStable = true
      · rw [all outcome' now]
        rfl
      · -- The properties were not all stable before either, so the members decided.
        have before : ¬ ∀ property ∈ declaration.properties,
            (outcome property.type).isStable = true := fun good =>
          now fun property there => parts _ (.property there) (good property there)
        rw [rule outcome before] at h
        rw [rule outcome' now]
        exact onward plain single (rule outcome' now) h

/-- A declaration stays unstable where its stable and its unstable parts stay what they are,
unless it is marked, its properties are stable only now, and its members made it unstable. -/
theorem isUnstable_classRules_carries (known : declaration.kind ≠ .unknown)
    (stable : ∀ part, judge.catalog.Part declaration part → (outcome part).isStable = true →
      (outcome' part).isStable = true)
    (unstable : ∀ part, judge.catalog.Part declaration part → (outcome part).isUnstable = true →
      (outcome' part).isUnstable = true)
    (marked : judge.ownOutcome? declaration = none →
      judge.catalog.hasMarkerAnnotation declaration.annotations = true →
      declaration.IsConcrete → declaration.NoneMutable →
      (∀ property ∈ declaration.properties, (outcome' property.type).isStable = true) →
      (∀ property ∈ declaration.properties, (outcome property.type).isStable = true) ∨
        (concreteClass (m := Id) judge.catalog outcome declaration : Classification).isUnstable =
          false)
    (h : (judge.classRules (m := Id) outcome declaration : Classification).isUnstable = true) :
    (judge.classRules (m := Id) outcome' declaration : Classification).isUnstable = true := by
  cases own : judge.ownOutcome? declaration with
  | some result =>
    rw [classRules, own] at h ⊢
    exact h
  | none =>
    have decided (plain : declaration.kind ≠ .value) (single : declaration.kind ≠ .enumeration)
        (h : (judge.openClass (m := Id) outcome declaration : Classification).isUnstable = true) :
        declaration.IsConcrete ∧
          (concreteClass (m := Id) judge.catalog outcome declaration : Classification).isUnstable =
            true ∧
          (judge.openClass (m := Id) outcome' declaration : Classification).isUnstable = true := by
      rcases openClass_decides judge known plain single with
        ⟨result, -, notUnstable, rule⟩ | ⟨concrete, rule⟩
      · rw [rule, notUnstable] at h
        cases h
      · rw [rule, isUnstable_withInference] at h
        rw [rule, isUnstable_withInference]
        exact ⟨concrete, h, isUnstable_concreteClass_carries stable unstable h⟩
    cases judge.dependence declaration with
    | fixed _ rule => rwa [rule] at h ⊢
    | wrapped wraps _ rule =>
      rw [rule] at h ⊢
      exact unstable _ (.wrapped wraps) h
    | members plain single rule =>
      rw [rule] at h ⊢
      exact (decided plain single h).2.2
    | marked plain single marker fixed all rule =>
      by_cases before : ∀ property ∈ declaration.properties,
          (outcome property.type).isStable = true
      · rw [all outcome before] at h
        cases h
      · rw [rule outcome before] at h
        obtain ⟨concrete, members, onward⟩ := decided plain single h
        by_cases now : ∀ property ∈ declaration.properties,
            (outcome' property.type).isStable = true
        · have calm := (marked own marker concrete fixed now).resolve_left before
          rw [calm] at members
          cases members
        · rw [rule outcome' now]
          exact onward

/-- What a reference makes of its declaration is fixed by the two and the catalog alone, and not
unstable, or it is the outcome of the rules, whatever the policy is. -/
theorem declarationOutcome_fixed_or_ruled (judge : Judge) (annotations : List String)
    (declaration : Declaration) :
    (∃ result, result.isUnstable = false ∧
      ∀ (policy : Policy) (outcome : TypeRef → Classification),
        (judge.withPolicy policy).declarationOutcome (m := Id) outcome annotations declaration =
          result) ∨
    declaration.kind ≠ .unknown ∧ ∀ (policy : Policy) (outcome : TypeRef → Classification),
      (judge.withPolicy policy).declarationOutcome (m := Id) outcome annotations declaration =
        (judge.withPolicy policy).classRules (m := Id) outcome declaration := by
  unfold declarationOutcome
  cases function : declaration.qualifiedName.filter judge.catalog.isFunctionInterface with
  | some name =>
    refine .inl ⟨.stable (functionReason judge.catalog annotations
      (judge.catalog.isSuspendFunctionInterface name)), rfl, fun policy outcome => ?_⟩
    simp only [catalog_withPolicy, function]
    rfl
  | none =>
    simp only [catalog_withPolicy, function]
    by_cases known : declaration.kind = .unknown
    · refine .inl ⟨.unknown declaration.simpleName, rfl, fun policy outcome => ?_⟩
      rw [analyzeClass, if_pos known]
      rfl
    · refine .inr ⟨known, fun policy outcome => ?_⟩
      rw [analyzeClass, if_neg known]
      rfl

/-- The outcome of a type is fixed by the type, the model and the catalog alone, and not unstable,
or it is that of the rules for the declaration that the type refers to, whatever the policy is. -/
theorem typeOutcome_fixed_or_ruled_withPolicy (judge : Judge) (type : TypeRef) :
    (∃ result, (∀ value, result = .ok value → value.isUnstable = false) ∧
      ∀ (policy : Policy) (outcome : TypeRef → Classification),
        (judge.withPolicy policy).typeOutcome (m := Except Fault) (fun part => .ok (outcome part))
          type = result) ∨
    ∃ declaration, judge.model.RefersTo type declaration ∧ declaration.kind ≠ .unknown ∧
      ∀ (policy : Policy) (outcome : TypeRef → Classification),
        (judge.withPolicy policy).typeOutcome (m := Except Fault) (fun part => .ok (outcome part))
          type = .ok ((judge.withPolicy policy).classRules (m := Id) outcome declaration) := by
  unfold typeOutcome
  simp only [model_withPolicy, catalog_withPolicy]
  cases reached : expandAliases judge.model type with
  | error fault => exact .inl ⟨.error fault, nofun, fun _ _ => rfl⟩
  | ok expansion =>
    rcases expansion with ⟨⟨declarationId, arguments, marks⟩ | _ | _ | _⟩ | stuck
    · have standsFor := standsFor_of_expandAliases reached
      simp only [answer, pure_bind]
      generalize resolved : judge.model.resolve
        (TypeRef.nominal declarationId arguments marks).nonNull = given
      rcases given with fault | _ | declaration
      · exact .inl ⟨.error fault, nofun, fun _ _ => rfl⟩
      · refine .inl ⟨.ok (.runtime _ Reason.unresolved), ?_, fun _ _ => rfl⟩
        rintro _ ⟨⟩
        rfl
      · rcases declarationOutcome_fixed_or_ruled judge _ declaration with
          ⟨result, calm, fixed⟩ | ⟨known, ruled⟩
        · refine .inl ⟨.ok result, ?_, fun policy outcome => ?_⟩
          · rintro _ ⟨⟩
            exact calm
          · exact (declarationOutcome_succeeds ..).trans (congrArg _ (fixed policy outcome))
        · refine .inr ⟨declaration, ⟨_, standsFor, rfl, resolved⟩, known, fun policy outcome => ?_⟩
          exact (declarationOutcome_succeeds ..).trans (congrArg _ (ruled policy outcome))
    · refine .inl ⟨.ok (.parameter _), ?_, fun _ _ => rfl⟩
      rintro _ ⟨⟩
      rfl
    · refine .inl ⟨.ok (.stable _), ?_, fun _ _ => rfl⟩
      rintro _ ⟨⟩
      rfl
    · refine .inl ⟨.ok (.runtime _ Reason.unresolved), ?_, fun _ _ => rfl⟩
      rintro _ ⟨⟩
      rfl
    · refine .inl ⟨.ok stuck, ?_, fun _ _ => rfl⟩
      rintro _ ⟨⟩
      exact (expandWithin_stuck reached).2

end

end Judge

end StableTypes
