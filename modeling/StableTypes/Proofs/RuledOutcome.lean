import StableTypes.Proofs.DepthIndependence
import StableTypes.Proofs.VerdictMonotonicity

/-!
# The outcome of a type from those of its parts

One level of a classification is a function from the outcomes of the parts of a type to the
outcome of the type. Of this function it is stated here what it looks at: the parts and
nothing else, and of the type itself only what its aliases are expanded to, up to
nullability, as far as the verdict goes.
-/

namespace StableTypes.Judge

variable {judge : Judge} {outcome outcome' : TypeRef → Classification} {type other : TypeRef}

/-- The outcome of a type, given those of its parts. -/
def ruledOutcome (judge : Judge) (outcome : TypeRef → Classification) (type : TypeRef) :
    Classification :=
  recovered type.signature
    (judge.typeOutcome (m := Except Fault) (fun part => .ok (outcome part)) type)

/-- Only the outcomes of the parts matter. -/
theorem ruledOutcome_congr
    (parts : ∀ part, judge.HasPart type part → outcome part = outcome' part) :
    judge.ruledOutcome outcome type = judge.ruledOutcome outcome' type := by
  have same := rel_typeOutcome equality fun part member => congrArg Except.ok (parts part member)
  exact congrArg (recovered type.signature) same

/-- The outcome of a type is fixed by the type alone, and not unstable, or it is that of the rules
for the declaration that the type refers to, whatever the policy is. -/
theorem ruledOutcome_fixed_or_ruled_withPolicy (judge : Judge) (type : TypeRef) :
    (∃ result, result.isUnstable = false ∧
      ∀ policy outcome, (judge.withPolicy policy).ruledOutcome outcome type = result) ∨
    ∃ declaration, judge.model.RefersTo type declaration ∧ declaration.kind ≠ .unknown ∧
      ∀ policy outcome, (judge.withPolicy policy).ruledOutcome outcome type =
        (judge.withPolicy policy).classRules (m := Id) outcome declaration := by
  rcases typeOutcome_fixed_or_ruled_withPolicy judge type with
    ⟨result, calm, fixed⟩ | ⟨declaration, refers, known, ruled⟩
  · refine .inl ⟨recovered type.signature result, ?_, fun policy outcome =>
      congrArg (recovered type.signature) (fixed policy outcome)⟩
    cases result with
    | error fault => rfl
    | ok value => exact calm value rfl
  · exact .inr ⟨declaration, refers, known, fun policy outcome =>
      congrArg (recovered type.signature) (ruled policy outcome)⟩

/-- The outcome of a type is fixed by the type alone, and not unstable, or it is that of the rules
for the declaration that the type refers to. -/
theorem ruledOutcome_fixed_or_ruled (judge : Judge) (type : TypeRef) :
    (∃ result, result.isUnstable = false ∧ ∀ outcome, judge.ruledOutcome outcome type = result) ∨
    ∃ declaration, judge.model.RefersTo type declaration ∧ declaration.kind ≠ .unknown ∧
      ∀ outcome, judge.ruledOutcome outcome type =
        judge.classRules (m := Id) outcome declaration := by
  rcases ruledOutcome_fixed_or_ruled_withPolicy judge type with
    ⟨result, calm, fixed⟩ | ⟨declaration, refers, known, ruled⟩
  · exact .inl ⟨result, calm, fixed judge.policy⟩
  · exact .inr ⟨declaration, refers, known, ruled judge.policy⟩

/-- A type is not unstable where the names or annotations of its declaration make it stable. -/
theorem isUnstable_ruledOutcome_of_own {declaration : Declaration}
    (refers : judge.model.RefersTo type declaration)
    (own : (judge.ownOutcome? declaration).any (·.isStable) = true)
    (outcome : TypeRef → Classification) :
    (judge.ruledOutcome outcome type).isUnstable = false := by
  rcases ruledOutcome_fixed_or_ruled judge type with
    ⟨result, calm, rule⟩ | ⟨declaration', refers', -, rule⟩
  · rw [rule]
    exact calm
  · obtain rfl := refers'.unique refers
    cases found : judge.ownOutcome? declaration' with
    | none =>
      rw [found] at own
      cases own
    | some result =>
      rw [found] at own
      rw [rule, classRules, found]
      exact Classification.isUnstable_of_isStable own

/-- A type stays stable where its stable parts do, unless it was found to be stable before and is
now unstable. -/
theorem isStable_ruledOutcome_carries
    (parts : ∀ part, judge.HasPart type part → (outcome part).isStable = true →
      (outcome' part).isStable = true)
    (inferred : ∀ declaration, judge.model.RefersTo type declaration →
      judge.ownOutcome? declaration = none → declaration.IsConcrete →
      declaration.inferredParameters = some 0 → declaration.NoneMutable →
        (judge.ruledOutcome outcome' type).isUnstable = false)
    (h : (judge.ruledOutcome outcome type).isStable = true) :
    (judge.ruledOutcome outcome' type).isStable = true := by
  rcases ruledOutcome_fixed_or_ruled judge type with
    ⟨result, -, fixed⟩ | ⟨declaration, refers, known, ruled⟩
  · rwa [fixed] at h ⊢
  · rw [ruled] at h inferred ⊢
    exact isStable_classRules_carries known
      (fun part member => parts part ⟨declaration, refers, member⟩) (inferred declaration refers) h

/-- A type stays unstable where its stable and its unstable parts stay what they are, unless it is
marked, its properties are stable only now, and its members made it unstable. -/
theorem isUnstable_ruledOutcome_carries
    (stable : ∀ part, judge.HasPart type part → (outcome part).isStable = true →
      (outcome' part).isStable = true)
    (unstable : ∀ part, judge.HasPart type part → (outcome part).isUnstable = true →
      (outcome' part).isUnstable = true)
    (marked : ∀ declaration, judge.model.RefersTo type declaration →
      judge.ownOutcome? declaration = none →
      judge.catalog.hasMarkerAnnotation declaration.annotations = true →
      declaration.IsConcrete → declaration.NoneMutable →
      (∀ property ∈ declaration.properties, (outcome' property.type).isStable = true) →
      (∀ property ∈ declaration.properties, (outcome property.type).isStable = true) ∨
        (concreteClass (m := Id) judge.catalog outcome declaration : Classification).isUnstable =
          false)
    (h : (judge.ruledOutcome outcome type).isUnstable = true) :
    (judge.ruledOutcome outcome' type).isUnstable = true := by
  rcases ruledOutcome_fixed_or_ruled judge type with
    ⟨result, -, fixed⟩ | ⟨declaration, refers, known, ruled⟩
  · rwa [fixed] at h ⊢
  · rw [ruled] at h ⊢
    exact isUnstable_classRules_carries known
      (fun part member => stable part ⟨declaration, refers, member⟩)
      (fun part member => unstable part ⟨declaration, refers, member⟩)
      (marked declaration refers) h

/-- A type stays unstable where its unstable parts do and the stable parts are the same. -/
theorem isUnstable_ruledOutcome_mono
    (stable : ∀ part, judge.HasPart type part →
      ((outcome part).isStable = true ↔ (outcome' part).isStable = true))
    (unstable : ∀ part, judge.HasPart type part → (outcome part).isUnstable = true →
      (outcome' part).isUnstable = true)
    (h : (judge.ruledOutcome outcome type).isUnstable = true) :
    (judge.ruledOutcome outcome' type).isUnstable = true := by
  refine isUnstable_ruledOutcome_carries (fun part member => (stable part member).mp) unstable
    (fun declaration refers _ _ _ _ now => .inl fun property there => ?_) h
  exact (stable _ ⟨declaration, refers, .property there⟩).mpr (now property there)

/-- Where the aliases of a type lead nowhere its parts decide nothing. -/
theorem ruledOutcome_undecided (stuck : ¬ ∃ expanded, judge.model.Reaches type expanded)
    (outcome : TypeRef → Classification) :
    (judge.ruledOutcome outcome type).isStable = false ∧
      (judge.ruledOutcome outcome type).isUnstable = false := by
  unfold ruledOutcome typeOutcome
  cases followed : expandAliases judge.model type with
  | error fault => exact ⟨rfl, rfl⟩
  | ok expansion =>
    cases expansion with
    | reached expanded => exact absurd ⟨expanded, followed⟩ stuck
    | stuck result => exact expandWithin_stuck followed

/-- The annotations of a reference do not matter to the verdict on its declaration. -/
theorem declarationOutcome_verdict (judge : Judge) (outcome : TypeRef → Classification)
    (declaration : Declaration) (name name' : String) (annotations annotations' : List String) :
    (recovered name (judge.declarationOutcome (m := Except Fault) (fun part => .ok (outcome part))
        annotations declaration)).verdict =
      (recovered name' (judge.declarationOutcome (m := Except Fault)
        (fun part => .ok (outcome part)) annotations' declaration)).verdict := by
  unfold declarationOutcome
  cases declaration.qualifiedName.filter judge.catalog.isFunctionInterface with
  | some _ => rfl
  | none =>
    generalize judge.analyzeClass (m := Except Fault) (fun part => .ok (outcome part)) declaration
      .empty = analyzed
    cases analyzed <;> rfl

/-- Types whose aliases are expanded to one type, up to nullability, have one verdict. -/
theorem ruledOutcome_verdict {expanded expanded' : TypeRef}
    (reaches : judge.model.Reaches type expanded) (reaches' : judge.model.Reaches other expanded')
    (same : expanded'.nonNull = expanded.nonNull) (outcome : TypeRef → Classification) :
    (judge.ruledOutcome outcome other).verdict = (judge.ruledOutcome outcome type).verdict := by
  unfold TypeModel.Reaches at reaches reaches'
  unfold ruledOutcome typeOutcome
  rw [reaches, reaches']
  simp only [answer, pure_bind]
  rw [same]
  cases expanded.nonNull with
  | nominal declarationId arguments marks =>
    dsimp only
    rcases judge.model.resolve (.nominal declarationId arguments marks) with fault | _ | declaration
    · rfl
    · rfl
    · exact declarationOutcome_verdict judge outcome declaration _ _ _ _
  | _ => rfl

/-- Types whose aliases are expanded to one type, up to nullability, refer to one declaration. -/
theorem refersTo_iff_of_reaches {model : TypeModel}
    {type other expanded expanded' : TypeRef}
    (reaches : model.Reaches type expanded) (reaches' : model.Reaches other expanded')
    (same : expanded'.nonNull = expanded.nonNull) {declaration : Declaration} :
    model.RefersTo other declaration ↔ model.RefersTo type declaration := by
  rw [(standsFor_of_expandAliases reaches).refersTo_iff,
    (standsFor_of_expandAliases reaches').refersTo_iff, same]

/-- Where the names and annotations of no declaration make it unstable, and no property can be
assigned of those that they do not decide, no type of a snapshot is unstable. -/
theorem isUnstable_outcomeWithin_ofSnapshot {snapshot : Snapshot} {catalog : Catalog}
    {policy : Policy}
    (own : ∀ shape ∈ snapshot.declarations,
      ((ofSnapshot snapshot catalog policy).ownOutcome? (.ofShape shape)).any (·.isUnstable) =
        false)
    (fixed : ∀ shape ∈ snapshot.declarations,
      ((ofSnapshot snapshot catalog policy).ownOutcome? (.ofShape shape)).isNone = true →
        (Declaration.ofShape shape).mutableCount = 0)
    (room : Nat) (active : List String) (type : TypeRef) :
    ((ofSnapshot snapshot catalog policy).outcomeWithin room active type).isUnstable = false := by
  induction room generalizing active type with
  | zero =>
    by_cases there : type.signature ∈ active
    · rw [outcomeWithin_of_mem there]
      rfl
    · rw [outcomeWithin_zero there]
      rfl
  | succ room ih =>
    by_cases there : type.signature ∈ active
    · rw [outcomeWithin_of_mem there]
      rfl
    · rw [outcomeWithin_succ there]
      change (ruledOutcome _ _ type).isUnstable = false
      rcases ruledOutcome_fixed_or_ruled (ofSnapshot snapshot catalog policy) type with
        ⟨result, calm, rule⟩ | ⟨declaration, refers, known, rule⟩
      · rw [rule]
        exact calm
      · obtain ⟨shape, listed, rfl⟩ := Snapshot.exists_shape_of_refersTo refers
        rw [rule]
        have decided := own shape listed
        have counted := fixed shape listed
        cases found : (ofSnapshot snapshot catalog policy).ownOutcome? (.ofShape shape) with
        | some result =>
          rw [found] at decided
          rw [classRules, found]
          exact decided
        | none =>
          rw [found] at counted
          rw [Bool.eq_false_iff]
          intro unstable
          rcases isUnstable_ruledBy (ruledBy_classRules known) unstable with
            ⟨result, other, -⟩ | assigned | ⟨part, -, bad⟩
          · rw [found] at other
            cases other
          · exact assigned (Declaration.mutableCount_eq_zero.mp (counted rfl))
          · rw [ih] at bad
            cases bad

end StableTypes.Judge
