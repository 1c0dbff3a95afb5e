import StableTypes.Proofs.RuleVerdict

/-!
# Where an outcome comes from

The outcome of a type is that of a function type, of the rules for the declaration it
refers to, or one that run time decides. Failures, cycles and the depth of the stack
lead to the last kind only, so what holds of outcomes that run time decides and
passes through the rules holds of every outcome of a guarded classification. That
induction is stated once, for the verdicts of both kinds.
-/

namespace StableTypes.Judge

/-- Where the outcome of a type comes from, given the outcomes of the parts. -/
inductive Origin (judge : Judge) (outcome : TypeRef → Classification) (type : TypeRef) :
    Classification → Prop
  /-- Neither stable nor unstable: a type parameter, an unknown declaration, or a query that
  leads nowhere or fails. -/
  | undecided {result : Classification} : result.isStable = false → result.isUnstable = false →
      Origin judge outcome type result
  /-- A function type. -/
  | function {expanded : TypeRef} {reason : String} : judge.model.StandsFor type expanded →
      expanded.isFunction = true → Origin judge outcome type (.stable reason)
  /-- A function interface. -/
  | functionInterface {declaration : Declaration} {name reason : String} :
      judge.model.RefersTo type declaration → declaration.qualifiedName = some name →
      judge.catalog.isFunctionInterface name = true → Origin judge outcome type (.stable reason)
  /-- The rules for a declaration of a known kind. -/
  | rules {declaration : Declaration} {result : Classification} :
      judge.model.RefersTo type declaration → declaration.kind ≠ .unknown →
      judge.RuledBy outcome declaration result → Origin judge outcome type result

/-- Succeeding with a value is respected by every rule. -/
def succeeding : StepRelation (Except Fault) Id where
  rel attempt value := attempt = .ok value
  pure _ := rfl
  bind given continued := by
    rw [given]
    exact continued _

/-- What a reference makes of its declaration is found where the outcomes of the parts are. -/
theorem declarationOutcome_succeeds (judge : Judge) (outcome : TypeRef → Classification)
    (annotations : List String) (declaration : Declaration) :
    judge.declarationOutcome (m := Except Fault) (fun part => .ok (outcome part)) annotations
        declaration =
      .ok (judge.declarationOutcome (m := Id) outcome annotations declaration) :=
  rel_declarationOutcome succeeding fun _ _ => rfl

/-- What a reference makes of its declaration has an origin. -/
theorem origin_declarationOutcome {judge : Judge} {outcome : TypeRef → Classification}
    {type : TypeRef} {declaration : Declaration} (annotations : List String)
    (refers : judge.model.RefersTo type declaration) :
    judge.Origin outcome type
      (judge.declarationOutcome (m := Id) outcome annotations declaration) := by
  unfold declarationOutcome
  split
  next name found =>
    obtain ⟨named, function⟩ := Option.filter_eq_some_iff.mp found
    exact .functionInterface refers named function
  · change judge.Origin outcome type
      (judge.analyzeClass (m := Id) outcome declaration .empty : Classification × _).1
    unfold analyzeClass
    split
    next there => cases there
    · split
      · exact .undecided rfl rfl
      next known => exact .rules refers known (ruledBy_classRules known)

/-- The same where the outcomes of the parts are given by computations that succeed. -/
theorem origin_succeeding {judge : Judge} {outcome : TypeRef → Classification} {type : TypeRef}
    {declaration : Declaration} {signature : String} (annotations : List String)
    (refers : judge.model.RefersTo type declaration) :
    judge.Origin outcome type (recovered signature
      (judge.declarationOutcome (m := Except Fault) (fun part => .ok (outcome part))
        annotations declaration)) := by
  rw [declarationOutcome_succeeds]
  exact origin_declarationOutcome annotations refers

/-- Where aliases lead nowhere the outcome is one that run time decides. -/
theorem exists_runtime_of_stuck {model : TypeModel} {start type : TypeRef} {levels : Nat}
    {stuck : Classification} (h : expandWithin model start levels type = .ok (.stuck stuck)) :
    ∃ name reason, stuck = .runtime name reason := by
  induction levels generalizing type with
  | zero =>
    unfold expandWithin at h
    split at h <;> cases h
    exact ⟨_, _, rfl⟩
  | succ levels ih =>
    unfold expandWithin at h
    split at h
    · split at h
      · cases h
      · split at h
        · cases h
          exact ⟨_, _, rfl⟩
        · exact ih h
    · cases h

/-- Where aliases lead nowhere the outcome is neither stable nor unstable. -/
theorem expandWithin_stuck {model : TypeModel} {start type : TypeRef} {levels : Nat}
    {stuck : Classification} (h : expandWithin model start levels type = .ok (.stuck stuck)) :
    stuck.isStable = false ∧ stuck.isUnstable = false := by
  obtain ⟨name, reason, rfl⟩ := exists_runtime_of_stuck h
  exact ⟨rfl, rfl⟩

/-- The outcome of a type has an origin, also where the model fails. -/
theorem origin_typeOutcome (judge : Judge) (outcome : TypeRef → Classification)
    (type : TypeRef) (signature : String) :
    judge.Origin outcome type (recovered signature
      (judge.typeOutcome (m := Except Fault) (fun part => .ok (outcome part)) type)) := by
  unfold typeOutcome
  cases reached : expandAliases judge.model type with
  | error fault => exact .undecided rfl rfl
  | ok expansion =>
    cases expansion with
    | stuck stuck =>
      obtain ⟨stable, unstable⟩ := expandWithin_stuck reached
      exact .undecided stable unstable
    | reached expanded =>
      have standsFor := standsFor_of_expandAliases reached
      rcases expanded with ⟨declarationId, arguments, marks⟩ | _ | _ | _
      · simp only [answer, pure_bind]
        generalize resolved : judge.model.resolve
          (TypeRef.nominal declarationId arguments marks).nonNull = given
        cases given with
        | error fault => exact .undecided rfl rfl
        | ok declaration? =>
          cases declaration? with
          | none => exact .undecided rfl rfl
          | some declaration =>
            have refers : judge.model.RefersTo type declaration :=
              ⟨_, standsFor, rfl, resolved⟩
            exact origin_succeeding _ refers
      · exact .undecided rfl rfl
      · exact .function standsFor rfl
      · exact .undecided rfl rfl

/-- What holds of every outcome that run time decides, and of the outcome of a type where it
holds of the outcomes of the parts, holds of every outcome: at every room and with whatever
signatures entered. -/
theorem outcomeWithin_induction {judge : Judge} {motive : TypeRef → Classification → Prop}
    (undecided : ∀ type result, result.isStable = false → result.isUnstable = false →
      motive type result)
    (step : ∀ type outcome result, (∀ part, motive part (outcome part)) →
      judge.Origin outcome type result → motive type result)
    (room : Nat) (active : List String) (type : TypeRef) :
    motive type (judge.outcomeWithin room active type) := by
  induction room generalizing active type with
  | zero =>
    by_cases there : type.signature ∈ active
    · rw [outcomeWithin_of_mem there]
      exact undecided type _ rfl rfl
    · rw [outcomeWithin_zero there]
      exact undecided type _ rfl rfl
  | succ room ih =>
    by_cases there : type.signature ∈ active
    · rw [outcomeWithin_of_mem there]
      exact undecided type _ rfl rfl
    · rw [outcomeWithin_succ there]
      exact step type _ _ (ih (type.signature :: active)) (origin_typeOutcome judge _ type _)

end StableTypes.Judge
