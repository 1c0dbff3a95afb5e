import StableTypes.Proofs.RuleVerdict

/-!
# The leaves of an outcome

A refusal of the guard is an outcome of run time with a reason of its own. No rule gives
such a reason, and combining only drops outcomes, so every leaf of what the rules make of
a declaration is a leaf of a part or has no such reason.
-/

namespace StableTypes

/-- A text that begins with another letter is another text. -/
theorem append_ne_of_head? {start text : String} (rest : String)
    (begins : start.toList.head?.isSome = true)
    (differs : start.toList.head? ≠ text.toList.head?) : start ++ rest ≠ text := by
  rintro rfl
  refine differs ?_
  rw [String.toList_append]
  cases letters : start.toList with
  | nil =>
    rw [letters] at begins
    cases begins
  | cons letter letters => rfl

/-- The reason is not that of a refusal of the guard. -/
def Reason.Ordinary (reason : String) : Prop :=
  reason ≠ circularReference ∧ reason ≠ tooComplex

namespace Reason

theorem ordinary_wrapped (type : String) : Ordinary (wrapped type) := by
  unfold wrapped
  rw [String.append_assoc]
  exact ⟨append_ne_of_head? _ (by decide) (by decide),
    append_ne_of_head? _ (by decide) (by decide)⟩

theorem ordinary_extendsRuntime (type : String) : Ordinary (extendsRuntime type) := by
  unfold extendsRuntime
  rw [String.append_assoc]
  exact ⟨append_ne_of_head? _ (by decide) (by decide),
    append_ne_of_head? _ (by decide) (by decide)⟩

theorem ordinary_inferredDependent (count : String) : Ordinary (inferredDependent count) := by
  unfold inferredDependent
  rw [String.append_assoc]
  exact ⟨append_ne_of_head? _ (by decide) (by decide),
    append_ne_of_head? _ (by decide) (by decide)⟩

end Reason

namespace Classification

/-- The outcome is not one that a refusal of the guard leads to. -/
def Ordinary (outcome : Classification) : Prop :=
  ∀ name reason, outcome = .runtime name reason → Reason.Ordinary reason

/-- A leaf of an outcome in a list is a leaf of the list. -/
theorem mem_allLeaves_iff {outcomes : List Classification} {leaf : Classification} :
    leaf ∈ allLeaves outcomes ↔ ∃ outcome ∈ outcomes, leaf ∈ outcome.leaves := by
  induction outcomes with
  | nil => simp [allLeaves]
  | cons outcome outcomes ih => simp [allLeaves, ih]

/-- An outcome that is not combined is its only leaf. -/
theorem leaves_of_not_combined {outcome : Classification} (h : outcome.isCombined = false) :
    outcome.leaves = [outcome] := by
  cases outcome with
  | combined members => cases h
  | _ => simp only [leaves]

/-- A leaf of a combination is a leaf of an outcome put into it. -/
theorem exists_mem_of_mem_leaves_combine {outcomes : List Classification} {leaf : Classification}
    (h : leaf ∈ (combine outcomes).leaves) : ∃ outcome ∈ outcomes, leaf ∈ outcome.leaves := by
  rw [combine_eq, leaves, mem_allLeaves_iff] at h
  obtain ⟨kept, member, there⟩ := h
  have before := mem_of_mem_distinctFrom member
  rw [leaves_of_not_combined (allLeaves_not_combined outcomes kept before),
    List.mem_singleton] at there
  subst there
  exact mem_allLeaves_iff.mp before

/-- The leaves of an outcome are ordinary or among those of some outcomes. -/
def OrdinaryOver (among : Classification → Prop) (outcome : Classification) : Prop :=
  ∀ leaf ∈ outcome.leaves, leaf.Ordinary ∨ among leaf

section

variable {among : Classification → Prop}

/-- An ordinary outcome that is not combined is its only leaf. -/
theorem ordinaryOver_of_ordinary {outcome : Classification} (single : outcome.isCombined = false)
    (ordinary : outcome.Ordinary) : OrdinaryOver among outcome := by
  intro leaf member
  rw [leaves_of_not_combined single, List.mem_singleton] at member
  subst member
  exact .inl ordinary

@[simp] theorem ordinaryOver_stable (reason : String) : OrdinaryOver among (.stable reason) :=
  ordinaryOver_of_ordinary rfl nofun

@[simp] theorem ordinaryOver_unstable (reason : String) : OrdinaryOver among (.unstable reason) :=
  ordinaryOver_of_ordinary rfl nofun

@[simp] theorem ordinaryOver_parameter (name : String) : OrdinaryOver among (.parameter name) :=
  ordinaryOver_of_ordinary rfl nofun

@[simp] theorem ordinaryOver_unknown (name : String) : OrdinaryOver among (.unknown name) :=
  ordinaryOver_of_ordinary rfl nofun

/-- What is left to run time for an ordinary reason is ordinary. -/
theorem ordinaryOver_runtime (name : String) {reason : String} (ordinary : Reason.Ordinary reason) :
    OrdinaryOver among (.runtime name reason) := by
  refine ordinaryOver_of_ordinary rfl fun name' reason' same => ?_
  cases same
  exact ordinary

end

end Classification

namespace Judge

open Classification

section

variable {among : Classification → Prop} {outcome : TypeRef → Classification}
  {judge : Judge} {catalog : Catalog} {declaration : Declaration}

/-- The rules for qualified names give ordinary outcomes. -/
theorem ordinaryOver_nameOutcome? {name : String} {result : Classification}
    (h : nameOutcome? catalog name = some result) : OrdinaryOver among result := by
  unfold nameOutcome? at h
  split_ifs at h <;> cases h <;> simp

/-- The rules that look at the declaration alone give ordinary outcomes. -/
theorem ordinaryOver_ownOutcome? {result : Classification}
    (h : judge.ownOutcome? declaration = some result) : OrdinaryOver among result := by
  unfold ownOutcome? at h
  dsimp only at h
  iterate 5
    split at h
    · cases h
      exact ordinaryOver_stable _
  split at h
  next bound =>
    cases h
    obtain ⟨name, -, decided⟩ := Option.bind_eq_some_iff.mp bound
    exact ordinaryOver_nameOutcome? decided
  split at h
  · cases h
    exact ordinaryOver_stable _
  split at h
  · cases h
    exact ordinaryOver_runtime _ ⟨by decide, by decide⟩
  · cases h

/-- What a value class makes of the type it wraps has the leaves of that type at most. -/
theorem ordinaryOver_valueClass
    (parts : ∀ property, declaration.wrapped = some property →
      OrdinaryOver among (outcome property.type)) :
    OrdinaryOver among (valueClass (m := Id) outcome declaration : Classification) := by
  unfold valueClass
  cases wraps : declaration.wrapped with
  | none => exact ordinaryOver_runtime _ ⟨by decide, by decide⟩
  | some property =>
    have inside := parts property wraps
    dsimp only
    generalize outcome property.type = verdict at inside
    cases verdict with
    | stable reason => exact ordinaryOver_stable _
    | unstable reason => exact ordinaryOver_unstable _
    | runtime name reason => exact ordinaryOver_runtime _ (Reason.ordinary_wrapped _)
    | parameter name => exact inside
    | unknown name => exact inside
    | combined members => exact inside

/-- What is inherited from a type has the leaves of that type at most. -/
theorem ordinaryOver_inheritedOutcome {supertype : TypeRef} {inherited : Classification}
    (part : OrdinaryOver among inherited) :
    OrdinaryOver among (inheritedOutcome supertype inherited) := by
  cases inherited with
  | unstable reason => exact ordinaryOver_unstable _
  | combined members => exact part
  | _ => exact ordinaryOver_runtime _ (Reason.ordinary_extendsRuntime _)

/-- What is combined has the leaves of the outcomes put into it at most. -/
theorem ordinaryOver_combine {outcomes : List Classification}
    (parts : ∀ part ∈ outcomes, OrdinaryOver among part) :
    OrdinaryOver among (combine outcomes) := by
  intro leaf member
  obtain ⟨part, there, inside⟩ := exists_mem_of_mem_leaves_combine member
  exact parts part there leaf inside

/-- Members put together have the leaves of the members at most. -/
theorem ordinaryOver_membersOutcome {outcomes : List (String × Classification)}
    {inherited : Option Classification} (parts : ∀ entry ∈ outcomes, OrdinaryOver among entry.2)
    (inherits : ∀ c, inherited = some c → OrdinaryOver among c) :
    OrdinaryOver among (membersOutcome outcomes inherited) := by
  unfold membersOutcome
  dsimp only
  split
  · split
    · exact ordinaryOver_stable _
    · refine ordinaryOver_combine fun part member => ?_
      rcases List.mem_append.mp member with own | passed
      · obtain ⟨entry, there, rfl⟩ := List.mem_map.mp (List.mem_of_mem_filter own)
        exact parts entry there
      · exact inherits part (by simpa using passed)
  · exact ordinaryOver_unstable _

/-- What the members of a concrete class come to has the leaves of the parts at most. -/
theorem ordinaryOver_concreteClass
    (parts : ∀ part, catalog.Part declaration part → OrdinaryOver among (outcome part)) :
    OrdinaryOver among
      (concreteClass (m := Id) catalog outcome declaration : Classification) := by
  have inherits : ∀ c,
      supertypesOutcome? (m := Id) catalog outcome declaration.supertypes = some c →
      OrdinaryOver among c := by
    intro c passed
    obtain ⟨supertype, there, root, -, rfl⟩ := supertypesOutcome?_eq_some passed
    exact ordinaryOver_inheritedOutcome (parts supertype (.supertype there root))
  rw [concreteClass_id]
  split
  · cases passed : supertypesOutcome? (m := Id) catalog outcome declaration.supertypes with
    | none => exact ordinaryOver_stable _
    | some c => exact inherits c passed
  · split
    · exact ordinaryOver_unstable _
    · refine ordinaryOver_membersOutcome (fun entry member => ?_) inherits
      obtain ⟨property, there, rfl⟩ := List.mem_map.mp member
      exact parts _ (.property there)

/-- What was found before gives an ordinary outcome. -/
theorem ordinaryOver_withInference {members : Classification}
    (inside : OrdinaryOver among members) :
    OrdinaryOver among (withInference declaration members) := by
  unfold withInference
  split
  · exact inside
  · split
    · exact ordinaryOver_stable _
    · exact ordinaryOver_runtime _ (Reason.ordinary_inferredDependent _)
    · exact inside

/-- The rules for interfaces, abstract classes and concrete classes give the leaves of the parts
at most. -/
theorem ordinaryOver_openClass
    (parts : ∀ part, judge.catalog.Part declaration part → OrdinaryOver among (outcome part)) :
    OrdinaryOver among (judge.openClass (m := Id) outcome declaration : Classification) := by
  unfold openClass
  split
  · exact ordinaryOver_runtime _ ⟨by decide, by decide⟩
  · split
    · exact ordinaryOver_runtime _ ⟨by decide, by decide⟩
    · exact ordinaryOver_withInference (ordinaryOver_concreteClass parts)

/-- What the properties of a marked class decide is ordinary. -/
theorem ordinaryOver_markedClass {result : Classification}
    (h : markedClass (m := Id) outcome declaration = some result) : OrdinaryOver among result := by
  rw [markedClass_id] at h
  split at h
  · cases h
    exact ordinaryOver_unstable _
  · split at h
    · cases h
      exact ordinaryOver_stable _
    · cases h

/-- What the rules make of a declaration has the leaves of the parts at most. -/
theorem ordinaryOver_classRules
    (parts : ∀ part, judge.catalog.Part declaration part → OrdinaryOver among (outcome part)) :
    OrdinaryOver among (judge.classRules (m := Id) outcome declaration : Classification) := by
  unfold classRules
  split
  next own => exact ordinaryOver_ownOutcome? own
  · split
    · exact ordinaryOver_valueClass fun property wraps => parts _ (.wrapped wraps)
    · split
      · exact ordinaryOver_stable _
      · split
        · cases decided : markedClass (m := Id) outcome declaration with
          | some result => exact ordinaryOver_markedClass decided
          | none => exact ordinaryOver_openClass parts
        · exact ordinaryOver_openClass parts

end

end Judge

end StableTypes
