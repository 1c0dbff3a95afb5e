import StableTypes.Proofs.OutcomeOrigin
import StableTypes.Proofs.SnapshotGraph

/-!
# Unstable types have a witness

From a type that is classified as unstable a path of parts leads to a declaration
that can itself be changed in place. Instability is passed on through value classes,
supertypes, properties and combinations, but it only ever starts at such a
declaration: cycles, cut-offs, unknown names and failures lead to outcomes of run
time.
-/

namespace StableTypes.Judge

/-- The type refers to a declaration that can itself be changed in place. -/
def RefersToMutable (judge : Judge) (type : TypeRef) : Prop :=
  ∃ declaration, judge.model.RefersTo type declaration ∧ judge.Mutable declaration

/-- A path of parts leads from the type to a declaration that can itself be changed in
place. -/
def HasMutableWitness (judge : Judge) (type : TypeRef) : Prop :=
  ∃ last, Relation.ReflTransGen judge.HasPart type last ∧ judge.RefersToMutable last

variable {judge : Judge} {outcome : TypeRef → Classification} {type : TypeRef}
  {declaration : Declaration}

/-- A rule calls a declaration unstable only for its names or annotations, for a property that can
be assigned, or for an unstable part. -/
theorem isUnstable_ruledBy {result : Classification}
    (ruled : judge.RuledBy outcome declaration result) (h : result.isUnstable = true) :
    (∃ own, judge.ownOutcome? declaration = some own ∧ own.isUnstable = true) ∨
      ¬ declaration.NoneMutable ∨
      ∃ part, judge.catalog.Part declaration part ∧ (outcome part).isUnstable = true := by
  cases ruled with
  | own own => exact .inl ⟨_, own, h⟩
  | wrapped _ wraps _ same =>
    rw [same] at h
    exact .inr (.inr ⟨_, .wrapped wraps, h⟩)
  | enumeration _ => cases h
  | assignable assigned => exact .inr (.inl assigned)
  | marked _ _ _ => cases h
  | inferred _ _ => cases h
  | members _ => exact .inr (isUnstable_concreteClass h)
  | undecided _ stable =>
    rw [stable] at h
    cases h

/-- A declaration with a property that can be assigned can be changed in place. -/
theorem mutable_of_not_noneMutable (h : ¬ declaration.NoneMutable) : judge.Mutable declaration := by
  simp only [Declaration.NoneMutable, not_forall, Bool.not_eq_false] at h
  obtain ⟨property, member, assigned⟩ := h
  exact .property member assigned

/-- A rule calls a declaration unstable only if it can itself be changed in place or a part is
unstable. -/
theorem mutable_or_part_of_ruledBy {result : Classification}
    (ruled : judge.RuledBy outcome declaration result) (h : result.isUnstable = true) :
    judge.Mutable declaration ∨
      ∃ part, judge.catalog.Part declaration part ∧ (outcome part).isUnstable = true := by
  rcases isUnstable_ruledBy ruled h with ⟨own, found, unstable⟩ | assigned | unstable
  · exact .inl (mutable_of_ownOutcome? found unstable)
  · exact .inl (mutable_of_not_noneMutable assigned)
  · exact .inr unstable

/-- An unstable outcome has a witness, at every room and with whatever signatures entered. -/
theorem hasMutableWitness_of_outcomeWithin (room : Nat) (active : List String) (type : TypeRef) :
    (judge.outcomeWithin room active type).isUnstable = true →
      judge.HasMutableWitness type := by
  refine outcomeWithin_induction
    (motive := fun type result => result.isUnstable = true → judge.HasMutableWitness type)
    ?undecided ?step room active type
  case undecided =>
    intro type result _ stable h
    rw [stable] at h
    cases h
  case step =>
    intro type outcome result witness origin h
    cases origin with
    | undecided _ stable =>
      rw [stable] at h
      cases h
    | function _ _ => cases h
    | functionInterface _ _ _ => cases h
    | rules refers known ruled =>
      rcases mutable_or_part_of_ruledBy ruled h with itself | ⟨part, member, unstable⟩
      · exact ⟨type, .refl, _, refers, itself⟩
      · obtain ⟨last, path, found⟩ := witness part unstable
        have first : judge.HasPart type part := ⟨_, refers, member⟩
        exact ⟨last, .head first path, found⟩

/-- Whatever the model fails at, whatever signatures are entered and however many fit, a
classification ends with an outcome, and if that is unstable a path of parts leads from the
type to a declaration that can itself be changed in place. -/
theorem unstable_has_witness (judge : Judge) (type : TypeRef) (guard : SignatureGuard) :
    ∃ outcome, (judge.classify type).runOn guard = (.ok outcome, guard) ∧
      (outcome.isUnstable = true → judge.HasMutableWitness type) :=
  ⟨judge.outcomeOn guard type, classify_runOn judge type guard,
    hasMutableWitness_of_outcomeWithin guard.room guard.active type⟩

end StableTypes.Judge
