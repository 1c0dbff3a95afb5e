import StableTypes.Classifier.Rules
import Mathlib.Logic.Relation

/-!
# The graph of types

A type refers to the declaration that its aliases lead to, and a declaration has
the types of its members as parts. Together they make types the nodes of a graph,
which may have cycles. These relations follow the model alone and know nothing of
guards, stacks or outcomes.
-/

namespace StableTypes

/-- A reference to a declaration. -/
def TypeRef.isNominal : TypeRef → Bool
  | .nominal .. => true
  | _ => false

/-- A function type. -/
def TypeRef.isFunction : TypeRef → Bool
  | .function .. => true
  | _ => false

/-- After that many alias levels a type becomes one that is no alias. -/
inductive TypeModel.Expands (model : TypeModel) : Nat → TypeRef → TypeRef → Prop
  /-- A type that is no alias is left as it is. -/
  | done {type : TypeRef} : type.isAlias = false → Expands model 0 type type
  /-- One level of an alias is expanded, and then the rest. -/
  | level {levels : Nat} {type next expanded : TypeRef} : type.isAlias = true →
      model.expandAlias type = .ok next → Expands model levels next expanded →
      Expands model (levels + 1) type expanded

/-- What a type stands for, behind as many aliases as a classification follows. -/
def TypeModel.StandsFor (model : TypeModel) (type expanded : TypeRef) : Prop :=
  ∃ levels ≤ maxAliasExpansions, model.Expands levels type expanded

/-- The declaration that a type refers to once its aliases are expanded. -/
def TypeModel.RefersTo (model : TypeModel) (type : TypeRef) (declaration : Declaration) : Prop :=
  ∃ expanded, model.StandsFor type expanded ∧ expanded.isNominal = true ∧
    model.resolve expanded.nonNull = .ok (some declaration)

/-- The types that the rules for a declaration may ask about. -/
inductive Catalog.Part (catalog : Catalog) (declaration : Declaration) : TypeRef → Prop
  /-- The type that a value class wraps. -/
  | wrapped {property : Property} : declaration.wrapped = some property →
      Part catalog declaration property.type
  /-- The type of a property. -/
  | property {property : Property} : property ∈ declaration.properties →
      Part catalog declaration property.type
  /-- A supertype, unless it is a root type. -/
  | supertype {type : TypeRef} : type ∈ declaration.supertypes →
      Judge.isRoot catalog type = false → Part catalog declaration type

/-- The second type is a part of the declaration that the first one refers to. -/
def Judge.HasPart (judge : Judge) (type part : TypeRef) : Prop :=
  ∃ declaration, judge.model.RefersTo type declaration ∧ judge.catalog.Part declaration part

/-- What the aliases of a type are expanded to, as far as a classification follows them. -/
def TypeModel.Reaches (model : TypeModel) (type expanded : TypeRef) : Prop :=
  Judge.expandAliases model type = .ok (.reached expanded)

/-- A type that is no alias stands for itself. -/
theorem TypeModel.StandsFor.itself {type : TypeRef} (model : TypeModel)
    (plain : type.isAlias = false) : model.StandsFor type type :=
  ⟨0, Nat.zero_le _, .done plain⟩

/-- Expansion leads to one type at most. -/
theorem TypeModel.Expands.unique {model : TypeModel} {type expanded expanded' : TypeRef}
    {levels levels' : Nat} (first : model.Expands levels type expanded)
    (second : model.Expands levels' type expanded') :
    levels = levels' ∧ expanded = expanded' := by
  induction first generalizing levels' with
  | done plain =>
    cases second with
    | done _ => exact ⟨rfl, rfl⟩
    | level abbreviates =>
      rw [plain] at abbreviates
      cases abbreviates
  | level abbreviates answer _ ih =>
    cases second with
    | done plain =>
      rw [plain] at abbreviates
      cases abbreviates
    | level _ answer' rest =>
      obtain rfl := Except.ok.inj (answer.symm.trans answer')
      obtain ⟨rfl, rfl⟩ := ih rest
      exact ⟨rfl, rfl⟩

/-- Nullability does not matter to whether a type is a reference to a declaration. -/
theorem TypeRef.isNominal_nonNull (type : TypeRef) : type.nonNull.isNominal = type.isNominal := by
  cases type <;> rfl

/-- A type that stands for another refers to the declaration that the other one refers to. -/
theorem TypeModel.StandsFor.refersTo_iff {model : TypeModel} {type expanded : TypeRef}
    (standsFor : model.StandsFor type expanded) {declaration : Declaration} :
    model.RefersTo type declaration ↔
      expanded.nonNull.isNominal = true ∧
        model.resolve expanded.nonNull = .ok (some declaration) := by
  rw [TypeRef.isNominal_nonNull]
  constructor
  · rintro ⟨expanded', ⟨_, _, expands'⟩, nominal, resolved⟩
    obtain ⟨_, _, expands⟩ := standsFor
    obtain ⟨-, rfl⟩ := expands.unique expands'
    exact ⟨nominal, resolved⟩
  · rintro ⟨nominal, resolved⟩
    exact ⟨expanded, standsFor, nominal, resolved⟩

/-- A type refers to one declaration at most. -/
theorem TypeModel.RefersTo.unique {model : TypeModel} {type : TypeRef}
    {declaration declaration' : Declaration} (refers : model.RefersTo type declaration)
    (refers' : model.RefersTo type declaration') : declaration = declaration' := by
  obtain ⟨expanded, standsFor, -, resolved⟩ := refers
  have resolved' := (standsFor.refersTo_iff.mp refers').2
  rw [resolved] at resolved'
  exact Option.some.inj (Except.ok.inj resolved')

namespace Judge

/-- A bounded expansion that reaches a type takes no more levels than it may. -/
theorem expandWithin_reached {model : TypeModel} {start type expanded : TypeRef} {levels : Nat}
    (h : expandWithin model start levels type = .ok (.reached expanded)) :
    ∃ taken ≤ levels, model.Expands taken type expanded := by
  induction levels generalizing type with
  | zero =>
    unfold expandWithin at h
    split at h
    · cases h
    next abbreviates =>
      cases h
      exact ⟨0, Nat.le_refl 0, .done (by simpa using abbreviates)⟩
  | succ levels ih =>
    unfold expandWithin at h
    split at h
    next abbreviates =>
      split at h
      · cases h
      next next answer =>
        split at h
        · cases h
        · obtain ⟨taken, bound, rest⟩ := ih h
          exact ⟨taken + 1, Nat.succ_le_succ bound, .level abbreviates answer rest⟩
    next abbreviates =>
      cases h
      exact ⟨0, Nat.zero_le _, .done (by simpa using abbreviates)⟩

/-- What the expansion of all aliases reaches is what the type stands for. -/
theorem standsFor_of_expandAliases {model : TypeModel} {type expanded : TypeRef}
    (h : expandAliases model type = .ok (.reached expanded)) : model.StandsFor type expanded :=
  expandWithin_reached h

end Judge

end StableTypes
