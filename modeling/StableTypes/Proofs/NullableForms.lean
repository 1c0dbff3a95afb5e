import StableTypes.ProgramModel
import StableTypes.Proofs.SnapshotGraph
import StableTypes.Proofs.GuardedOutcome

/-!
# The nullable and the other form of a type

In a program given as a snapshot an alias is expanded alike in both forms, and an expansion that
started nullable stays so. The two runs therefore differ in a question mark, until an alias has a
nullable target, and are the same run from there on. The question mark is seen only by the test
whether an alias leads to itself, which compares texts: at the one level with a nullable target
the run that started nullable compares two texts with the mark, and the other run one with and
one without. So the runs can come apart there, and only there.
-/

namespace StableTypes

namespace TypeRef

/-- A use that has the nullability already stays as it is. -/
theorem withNullability_nullable (type : TypeRef) :
    type.withNullability type.nullable = type := by
  cases type <;> rfl

/-- Only the last nullability given to a use counts. -/
@[simp] theorem withNullability_withNullability (type : TypeRef) (nullable nullable' : Bool) :
    (type.withNullability nullable).withNullability nullable' = type.withNullability nullable' := by
  cases type <;> rfl

@[simp] theorem isAlias_withNullability (type : TypeRef) (nullable : Bool) :
    (type.withNullability nullable).isAlias = type.isAlias := by
  cases type <;> rfl

@[simp] theorem annotations_withNullability (type : TypeRef) (nullable : Bool) :
    (type.withNullability nullable).annotations = type.annotations := by
  cases type <;> rfl

@[simp] theorem nonNull_withNullability (type : TypeRef) (nullable : Bool) :
    (type.withNullability nullable).nonNull = type.nonNull :=
  type.withNullability_withNullability nullable false

@[simp] theorem signature_withNullability (type : TypeRef) (nullable : Bool) :
    (type.withNullability nullable).signature = type.signature := by
  rw [signature, nonNull_withNullability, signature]

/-- A use that is not nullable is its own form that is not. -/
theorem nonNull_of_plain {type : TypeRef} (plain : type.nullable = false) :
    type.nonNull = type := by
  rw [nonNull, ← plain, withNullability_nullable]

/-- The text of a nullable use of an alias is its signature and a question mark. -/
theorem render_nullable_alias {type : TypeRef} (abbreviates : type.isAlias = true) :
    (type.withNullability true).render = type.signature ++ "?" := by
  match type with
  | .alias aliasId arguments marks =>
    simp [withNullability, withMarks, signature, nonNull, render, namedText, nullMark,
      TypeRef.marks, String.append_assoc]

end TypeRef

namespace ProgramModel

/-- The nullable form of a type is expanded to the nullable form of what the type is expanded
to. -/
theorem expandAlias_nullable (model : ProgramModel) (type : TypeRef) :
    model.expandAlias (type.withNullability true) =
      (model.expandAlias type).withNullability true := by
  match type with
  | .nominal _ _ _ => rfl
  | .parameter _ _ => rfl
  | .function _ _ _ _ _ => rfl
  | .alias aliasId arguments marks =>
    have both (target : TypeRef) :
        TypeRef.seenThrough { marks with nullable := true } target =
          (target.seenThrough marks).withNullability true := by
      cases target <;> simp [TypeRef.seenThrough, TypeRef.withMarks, TypeRef.withNullability,
        TypeRef.marks, TypeRef.annotations]
    simp only [expandAlias, expansion?, TypeRef.withNullability, TypeRef.withMarks, TypeRef.marks]
    cases Table.get? aliasId model.aliases with
    | none => rfl
    | some definition => exact both _

/-- If a use of an alias that is not nullable is expanded to a nullable one, then they have
different texts, and if only the question mark is different they are forms of one use and another
level is left. -/
def FormsApart (model : ProgramModel) (left : Nat) (type : TypeRef) : Prop :=
  type.nullable = false → (model.expandAlias type).nullable = true →
    (model.expandAlias type).isAlias = true →
    (model.expandAlias type).render ≠ type.render ∧
      ((model.expandAlias type).signature = type.signature →
        (model.expandAlias type).nonNull = type ∧ 0 < left)

/-- The forms are told apart at each of that many levels, from a type on. -/
def ToldApart (model : ProgramModel) : (levels : Nat) → TypeRef → Prop
  | 0, _ => True
  | levels + 1, type =>
    model.FormsApart levels type ∧ ToldApart model levels (model.expandAlias type)

/-- A type that is not expanded to a nullable one leaves nothing to tell apart. -/
theorem formsApart_of_plain {model : ProgramModel} {type : TypeRef} (left : Nat)
    (plain : (model.expandAlias type).nullable = type.nullable) : model.FormsApart left type := by
  intro own target
  rw [plain, own] at target
  cases target

/-- A type that is expanded to itself leaves nothing to tell apart. -/
theorem ToldApart.of_itself {model : ProgramModel} {type : TypeRef}
    (itself : model.expandAlias type = type) (levels : Nat) : model.ToldApart levels type := by
  induction levels with
  | zero => trivial
  | succ levels ih =>
    rw [← itself] at ih
    exact ⟨formsApart_of_plain levels (by rw [itself]), ih⟩

end ProgramModel

namespace Expansion

/-- An expansion without the nullability of what it reached. -/
def nonNull : Expansion → Expansion
  | .reached type => .reached type.nonNull
  | .stuck outcome => .stuck outcome

/-- Expansions that are the same up to nullability are the same, or they reached forms of one
type. -/
theorem eq_or_reached {expansion expansion' : Except Fault Expansion}
    (same : expansion.map nonNull = expansion'.map nonNull) :
    expansion = expansion' ∨ ∃ type type', expansion = .ok (.reached type) ∧
      expansion' = .ok (.reached type') ∧ type.nonNull = type'.nonNull := by
  rcases expansion with fault | type | outcome <;>
    rcases expansion' with fault' | type' | outcome' <;>
    simp only [Except.map, nonNull, Except.ok.injEq, Except.error.injEq, reached.injEq,
      stuck.injEq, reduceCtorEq] at same
  · exact .inl (congrArg Except.error same)
  · exact .inr ⟨type, type', rfl, rfl, same⟩
  · exact .inl (congrArg (Except.ok ∘ stuck) same)

end Expansion

namespace Judge

/-- The outcome of a type depends on its annotations and on where its aliases lead, up to
nullability. -/
theorem typeOutcome_eq_of_expansions {judge : Judge}
    {classify : TypeRef → Except Fault Classification} {type type' : TypeRef}
    (annotations : type.annotations = type'.annotations)
    (expansions : (expandAliases judge.model type).map Expansion.nonNull =
      (expandAliases judge.model type').map Expansion.nonNull) :
    judge.typeOutcome classify type = judge.typeOutcome classify type' := by
  unfold typeOutcome
  rcases Expansion.eq_or_reached expansions with same | ⟨expanded, expanded', led, led', same⟩
  · rw [annotations, same]
  · rw [annotations, led, led']
    simp only [answer, pure_bind, same]

section

variable {model : ProgramModel} {start start' type : TypeRef} {levels : Nat}

/-- Only the signature of the unexpanded form matters to an expansion. -/
theorem expandWithin_congr_start (starts : start.signature = start'.signature) :
    expandWithin model.typeModel start levels type =
      expandWithin model.typeModel start' levels type := by
  induction levels generalizing type with
  | zero => rw [expandWithin, expandWithin, starts]
  | succ levels ih =>
    unfold expandWithin
    simp only [ih]

/-- One level of an alias is expanded, unless it leads to the same text. -/
theorem expandWithin_level (abbreviates : type.isAlias = true) :
    expandWithin model.typeModel start (levels + 1) type =
      if (model.expandAlias type).isAlias = true ∧
          (model.expandAlias type).render = type.render then
        .ok (.stuck (.runtime type.signature Reason.unresolved))
      else expandWithin model.typeModel start levels (model.expandAlias type) := by
  have answer : model.typeModel.expandAlias type = .ok (model.expandAlias type) := rfl
  rw [expandWithin, if_pos abbreviates, answer]
  simp only [Bool.and_eq_true, decide_eq_true_eq]

/-- One level of a nullable use is expanded, unless it leads to the same signature. -/
theorem expandWithin_nullable_level (abbreviates : type.isAlias = true) :
    expandWithin model.typeModel start (levels + 1) (type.withNullability true) =
      if (model.expandAlias type).isAlias = true ∧
          (model.expandAlias type).signature = type.signature then
        .ok (.stuck (.runtime type.signature Reason.unresolved))
      else expandWithin model.typeModel start levels
        ((model.expandAlias type).withNullability true) := by
  rw [expandWithin_level (by rwa [TypeRef.isAlias_withNullability]), model.expandAlias_nullable,
    TypeRef.isAlias_withNullability, TypeRef.signature_withNullability]
  refine if_congr (and_congr_right fun again => ?_) rfl rfl
  rw [TypeRef.render_nullable_alias again, TypeRef.render_nullable_alias abbreviates,
    String.append_left_inj]

/-- A use that comes to an alias of nullable target goes on as its nullable form does, or both are
unresolved. -/
theorem expandWithin_nullable_target (starts : start.signature = start'.signature)
    (abbreviates : type.isAlias = true) (plain : type.nullable = false)
    (target : (model.expandAlias type).nullable = true) (apart : model.FormsApart levels type) :
    expandWithin model.typeModel start (levels + 1) type =
      expandWithin model.typeModel start' (levels + 1) (type.withNullability true) := by
  have form : (model.expandAlias type).withNullability true = model.expandAlias type := by
    rw [← target, TypeRef.withNullability_nullable]
  rw [expandWithin_level abbreviates, expandWithin_nullable_level abbreviates, form]
  by_cases again : (model.expandAlias type).isAlias = true
  · obtain ⟨texts, one⟩ := apart plain target again
    rw [if_neg (by simp [texts])]
    by_cases signatures : (model.expandAlias type).signature = type.signature
    · -- The nullable form leads to itself, which takes the other form one more level to notice.
      obtain ⟨same, left⟩ := one signatures
      obtain ⟨levels, rfl⟩ : ∃ fewer, levels = fewer + 1 := ⟨levels - 1, by omega⟩
      have itself : model.expandAlias (model.expandAlias type) = model.expandAlias type := by
        calc model.expandAlias (model.expandAlias type)
          _ = model.expandAlias ((model.expandAlias type).nonNull.withNullability true) := by
            rw [TypeRef.nonNull, TypeRef.withNullability_withNullability, form]
          _ = model.expandAlias (type.withNullability true) := by rw [same]
          _ = model.expandAlias type := by rw [model.expandAlias_nullable, form]
      rw [expandWithin_level again, itself, if_pos ⟨again, rfl⟩, if_pos ⟨again, signatures⟩,
        signatures]
    · rw [if_neg (by simp [signatures])]
      exact expandWithin_congr_start starts
  · rw [if_neg (by simp [again]), if_neg (by simp [again])]
    exact expandWithin_congr_start starts

/-- The expansion of a use that is not nullable and that of its nullable form get stuck alike or
reach two forms of one type, if they are told apart wherever they could come apart. -/
theorem expandWithin_nullable (starts : start.signature = start'.signature)
    (plain : type.nullable = false) (apart : model.ToldApart levels type) :
    (expandWithin model.typeModel start levels type).map Expansion.nonNull =
      (expandWithin model.typeModel start' levels (type.withNullability true)).map
        Expansion.nonNull := by
  induction levels generalizing type with
  | zero =>
    unfold expandWithin
    rw [TypeRef.isAlias_withNullability, starts]
    cases type.isAlias <;> simp [Except.map, Expansion.nonNull]
  | succ levels ih =>
    by_cases abbreviates : type.isAlias = true
    · cases target : (model.expandAlias type).nullable with
      | true => rw [expandWithin_nullable_target starts abbreviates plain target apart.1]
      | false =>
        rw [expandWithin_level abbreviates, expandWithin_nullable_level abbreviates]
        have texts : (model.expandAlias type).signature = type.signature ↔
            (model.expandAlias type).render = type.render := by
          rw [TypeRef.signature, TypeRef.signature, TypeRef.nonNull_of_plain target,
            TypeRef.nonNull_of_plain plain]
        simp only [texts]
        split
        · rfl
        · exact ih target apart.2
    · unfold expandWithin
      rw [TypeRef.isAlias_withNullability, if_neg abbreviates, if_neg abbreviates]
      simp [Except.map, Expansion.nonNull]

end

/-- Types of one signature have one outcome if the rules make the same of them. -/
theorem outcomeWithin_eq_of_rules {judge : Judge} {type type' : TypeRef}
    (signatures : type.signature = type'.signature)
    (rules : ∀ classify : TypeRef → Except Fault Classification,
      judge.typeOutcome classify type = judge.typeOutcome classify type')
    (room : Nat) (active : List String) :
    judge.outcomeWithin room active type = judge.outcomeWithin room active type' := by
  by_cases there : type.signature ∈ active
  · rw [outcomeWithin_of_mem there, outcomeWithin_of_mem (signatures ▸ there), signatures]
  · have there' : type'.signature ∉ active := signatures ▸ there
    cases room with
    | zero => rw [outcomeWithin_zero there, outcomeWithin_zero there', signatures]
    | succ room => rw [outcomeWithin_succ there, outcomeWithin_succ there', rules, signatures]

/-- In a program given as a snapshot both forms of a type come to one outcome on every guard, and
the guard is then what it was, if the uses of aliases that the type leads to are told apart
wherever a nullable target is reached. -/
theorem nullable_forms_agree (model : ProgramModel) (catalog : Catalog) (policy : Policy)
    (judge : Judge) (ofThem : judge = ⟨model.typeModel, catalog, policy⟩) (type : TypeRef)
    (guard : SignatureGuard) (apart : model.ToldApart maxAliasExpansions type.nonNull) :
    ∃ outcome, (judge.classify (type.withNullability true)).runOn guard = (.ok outcome, guard) ∧
      (judge.classify (type.withNullability false)).runOn guard = (.ok outcome, guard) := by
  subst ofThem
  refine ⟨_, classify_runOn _ _ guard, ?_⟩
  rw [classify_runOn]
  have expansions : (expandAliases model.typeModel (type.withNullability true)).map
      Expansion.nonNull =
      (expandAliases model.typeModel (type.withNullability false)).map Expansion.nonNull := by
    have form : type.withNullability true = (type.withNullability false).withNullability true := by
      simp
    rw [form]
    exact (expandWithin_nullable (by simp) (by cases type <;> rfl) apart).symm
  exact congrArg (fun outcome => (Except.ok outcome, guard)) (outcomeWithin_eq_of_rules (by simp)
    (fun _ => typeOutcome_eq_of_expansions (by simp) expansions.symm) guard.room guard.active)

end Judge

/-- An alias for its own nullable form, an alias for its argument, and an alias whose name ends in a
question mark, for the nullable form of an alias that is named without it and stands for a
class. -/
def Snapshot.nullableTargets : Snapshot where
  declarations := [DeclarationShape.finalClass "Word"]
  aliases := [⟨"Loop", [], .alias "Loop" none { nullable := some true }⟩,
    ⟨"Peel", ["T"], .parameter "T" {}⟩,
    ⟨"Name?", [], .alias "Name" none { nullable := some true }⟩,
    ⟨"Name", [], .nominal "Word" none {}⟩]
  callables := []

/-- The alias for its own nullable form, as the argument of the other one that many times. -/
def TypeRef.peeled : Nat → TypeRef
  | 0 => .ofAlias "Loop"
  | levels + 1 => .ofAlias "Peel" (some [peeled levels])

namespace ProgramModel

/-- The model of the aliases with nullable targets. -/
def ofNullableTargets : ProgramModel := .ofSnapshot .nullableTargets

/-- The alias for its argument is expanded to that. -/
theorem expandAlias_peeled (levels : Nat) :
    ofNullableTargets.expandAlias (.peeled (levels + 1)) = .peeled levels := by
  cases levels <;> rfl

/-- As long as two levels are left, the forms are told apart. -/
theorem toldApart_peeled (levels spare : Nat) :
    ofNullableTargets.ToldApart (levels + (spare + 2)) (.peeled levels) := by
  induction levels with
  | zero =>
    rw [Nat.zero_add]
    exact ⟨fun _ _ _ => ⟨by decide, fun _ => ⟨rfl, by omega⟩⟩, .of_itself rfl _⟩
  | succ levels ih =>
    rw [show levels + 1 + (spare + 2) = levels + (spare + 2) + 1 by omega]
    have plain (levels : Nat) : (TypeRef.peeled levels).nullable = false := by
      cases levels <;> rfl
    refine ⟨formsApart_of_plain _ ?_, ?_⟩
    · rw [expandAlias_peeled, plain, plain]
    · rwa [expandAlias_peeled]

end ProgramModel

namespace Judge

/-- The aliases with nullable targets, with an empty catalog. -/
def ofNullableTargets : Judge := ⟨ProgramModel.ofNullableTargets.typeModel, default, .ofOptions {}⟩

/-- Below the limit of levels, both forms of the alias for its own nullable form come to one outcome
behind the other alias. -/
theorem peeled_forms_agree :
    ∃ outcome, (ofNullableTargets.classify ((TypeRef.peeled 30).withNullability true)).runOn
        ofNullableTargets.freshGuard = (.ok outcome, ofNullableTargets.freshGuard) ∧
      (ofNullableTargets.classify ((TypeRef.peeled 30).withNullability false)).runOn
        ofNullableTargets.freshGuard = (.ok outcome, ofNullableTargets.freshGuard) :=
  nullable_forms_agree .ofNullableTargets default (.ofOptions {}) ofNullableTargets rfl (.peeled 30)
    ofNullableTargets.freshGuard (ProgramModel.toldApart_peeled 30 0)

/-- The reason that a type is given where nothing is entered. -/
def freshReason (judge : Judge) (type : TypeRef) : Except Fault String :=
  ((judge.classify type).runOn judge.freshGuard).1.map Classification.describe

/-- At the limit of levels, only the nullable form is seen to lead to itself. Where a name ends in a
question mark, only the form without one is taken to do so. -/
theorem nullable_forms_come_apart :
    (ofNullableTargets.freshReason ((TypeRef.peeled 31).withNullability true) =
        .ok Reason.unresolved ∧
      ofNullableTargets.freshReason ((TypeRef.peeled 31).withNullability false) =
        .ok Reason.tooComplex) ∧
    ofNullableTargets.freshVerdict ((TypeRef.ofAlias "Name?").withNullability true) =
        .ok .stable ∧
      ofNullableTargets.freshVerdict ((TypeRef.ofAlias "Name?").withNullability false) =
        .ok .runtime := by
  refine ⟨⟨?_, ?_⟩, ?_, ?_⟩
  all_goals decide +kernel

end Judge

end StableTypes
