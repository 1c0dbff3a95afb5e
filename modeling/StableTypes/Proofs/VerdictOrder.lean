import StableTypes.Proofs.VerdictMonotonicity

/-!
# The order of verdicts

Stable is better than left to run time, and that is better than unstable. Nearly all rules
respect this order: what the parts of a declaration come to better, the declaration comes to
better. The one exception is that the first supertype decides that is not stable. Where one
supertype becomes stable, a worse one behind it gets its turn, so the lemmas ask that a
supertype which is unstable has none before it that became stable only now.
-/

namespace StableTypes

namespace Verdict

/-- How bad a verdict is. -/
def rank : Verdict → Nat
  | .stable => 0
  | .runtime => 1
  | .unstable => 2

/-- Stable is best and unstable is worst. -/
instance : LE Verdict := ⟨fun verdict other => verdict.rank ≤ other.rank⟩

instance (verdict other : Verdict) : Decidable (verdict ≤ other) :=
  inferInstanceAs (Decidable (verdict.rank ≤ other.rank))

end Verdict

/-- An outcome is no worse than another one exactly if it is stable where that is, and that is
unstable where it is. -/
theorem Classification.verdict_le_iff {outcome other : Classification} :
    outcome.verdict ≤ other.verdict ↔
      (other.isStable = true → outcome.isStable = true) ∧
        (outcome.isUnstable = true → other.isUnstable = true) := by
  rw [← verdict_eq_stable_iff, ← verdict_eq_stable_iff, ← verdict_eq_unstable_iff,
    ← verdict_eq_unstable_iff]
  cases outcome.verdict <;> cases other.verdict <;> decide

namespace Judge

variable {judge : Judge} {outcome better kept : TypeRef → Classification}
  {declaration : Declaration}

/-- If the first supertype that is neither a root type nor stable is unstable now, then those before
it have been stable all along. -/
def KeepsFirst (catalog : Catalog) (outcome better : TypeRef → Classification)
    (supertypes : List TypeRef) : Prop :=
  ∀ before supertype after, supertypes = before ++ supertype :: after →
    isRoot catalog supertype = false → (better supertype).isUnstable = true →
    (∀ earlier ∈ before, isRoot catalog earlier = false → (better earlier).isStable = true) →
    ∀ earlier ∈ before, isRoot catalog earlier = false → (outcome earlier).isStable = true

/-- The supertypes pass on something unstable exactly if the first one is unstable that is neither a
root type nor stable. -/
theorem supertypesOutcome?_isUnstable_iff {catalog : Catalog} {supertypes : List TypeRef} :
    (∃ inherited, supertypesOutcome? (m := Id) catalog outcome supertypes = some inherited ∧
      inherited.isUnstable = true) ↔
    ∃ before supertype after, supertypes = before ++ supertype :: after ∧
      isRoot catalog supertype = false ∧ (outcome supertype).isUnstable = true ∧
      ∀ earlier ∈ before, isRoot catalog earlier = false → (outcome earlier).isStable = true := by
  rw [supertypesOutcome?_id]
  constructor
  · rintro ⟨_, passed, unstable⟩
    obtain ⟨supertype, found, rfl⟩ := Option.map_eq_some_iff.mp passed
    obtain ⟨decides, before, after, split, pass⟩ := List.find?_eq_some_iff_append.mp found
    simp only [Bool.and_eq_true, Bool.not_eq_true'] at decides
    refine ⟨before, supertype, after, split, decides.1, inheritedOutcome_isUnstable unstable,
      fun earlier member root => ?_⟩
    simpa [root] using pass earlier member
  · rintro ⟨before, supertype, after, split, root, unstable, pass⟩
    have notStable : (outcome supertype).isStable = false := by
      rw [Bool.eq_false_iff]
      intro stable
      rw [Classification.isUnstable_of_isStable stable] at unstable
      cases unstable
    have found : supertypes.find? (fun supertype =>
        !isRoot catalog supertype && !(outcome supertype).isStable) = some supertype := by
      refine List.find?_eq_some_iff_append.mpr ⟨?_, before, after, split, fun earlier member => ?_⟩
      · simp [root, notStable]
      · cases passed : isRoot catalog earlier with
        | true => simp
        | false => simp [pass earlier member passed]
    exact ⟨_, congrArg _ found, inheritedOutcome_isUnstable_iff.mpr unstable⟩

/-- Members that make a class unstable now have made it unstable before, where what is unstable was
unstable before and no supertype gets its turn only now. -/
theorem isUnstable_concreteClass_of_keepsFirst {catalog : Catalog}
    (unstable : ∀ part, catalog.Part declaration part → (better part).isUnstable = true →
      (outcome part).isUnstable = true)
    (keeps : declaration.NoneMutable → KeepsFirst catalog outcome better declaration.supertypes)
    (h : (concreteClass (m := Id) catalog better declaration : Classification).isUnstable = true) :
    (concreteClass (m := Id) catalog outcome declaration : Classification).isUnstable = true := by
  rw [isUnstable_concreteClass_iff, supertypesOutcome?_isUnstable_iff] at h ⊢
  by_cases fixed : declaration.NoneMutable
  · rcases h with assigned | ⟨property, there, bad⟩ |
      ⟨before, supertype, after, split, root, bad, pass⟩
    · exact .inl assigned
    · exact .inr (.inl ⟨property, there, unstable _ (.property there) bad⟩)
    · have there : supertype ∈ declaration.supertypes := by simp [split]
      exact .inr (.inr ⟨before, supertype, after, split, root,
        unstable _ (.supertype there root) bad,
        keeps fixed before supertype after split root bad pass⟩)
  · exact .inl fixed

/-- A declaration that is unstable now was unstable before, where what is unstable was unstable
before and no supertype gets its turn only now. The rules give the same where all is still stable
that has been. -/
theorem isUnstable_classRules_of_keepsFirst (known : declaration.kind ≠ .unknown)
    (stable : ∀ part, (outcome part).isStable = true → (kept part).isStable = true)
    (same : judge.classRules (m := Id) kept declaration =
      judge.classRules (m := Id) better declaration)
    (unstable : ∀ part, judge.catalog.Part declaration part → (better part).isUnstable = true →
      (outcome part).isUnstable = true)
    (keeps : declaration.IsConcrete → declaration.NoneMutable →
      KeepsFirst judge.catalog outcome better declaration.supertypes)
    (h : (judge.classRules (m := Id) better declaration : Classification).isUnstable = true) :
    (judge.classRules (m := Id) outcome declaration : Classification).isUnstable = true := by
  have members (plain : declaration.kind ≠ .value) (single : declaration.kind ≠ .enumeration)
      (h : (judge.openClass (m := Id) better declaration : Classification).isUnstable = true) :
      (judge.openClass (m := Id) outcome declaration : Classification).isUnstable = true := by
    rcases openClass_decides judge known plain single with
      ⟨result, -, calm, rule⟩ | ⟨concrete, rule⟩
    · rw [rule, calm] at h
      cases h
    · rw [rule, isUnstable_withInference] at h ⊢
      exact isUnstable_concreteClass_of_keepsFirst unstable (keeps concrete) h
  cases judge.dependence declaration with
  | fixed _ rule => rwa [rule] at h ⊢
  | wrapped wraps _ rule =>
    rw [rule] at h ⊢
    exact unstable _ (.wrapped wraps) h
  | members plain single rule =>
    rw [rule] at h ⊢
    exact members plain single h
  | marked plain single _ _ all rule =>
    -- The marker has not decided: it would decide still.
    have before : ¬ ∀ property ∈ declaration.properties,
        (outcome property.type).isStable = true := by
      intro good
      rw [← same, all kept fun property there => stable _ (good property there)] at h
      cases h
    have now : ¬ ∀ property ∈ declaration.properties, (better property.type).isStable = true := by
      intro good
      rw [all better good] at h
      cases h
    rw [rule better now] at h
    rw [rule outcome before]
    exact members plain single h

end Judge

end StableTypes
