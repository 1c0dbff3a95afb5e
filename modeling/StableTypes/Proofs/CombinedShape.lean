import StableTypes.Proofs.CombinedMembers
import StableTypes.Proofs.GuardBalance
import StableTypes.Proofs.OutcomeOrigin

/-!
# The shape of combined outcomes

Only the members of a concrete class are ever combined, and then no property is unstable. So the
one unstable member that a combined outcome can have is what the class inherits, which comes last.
Each rule is shown to keep this shape, and the induction is on the room left for signatures.
-/

namespace StableTypes

namespace Classification

/-- What the members of a combined outcome look like. -/
structure Reduced (members : List Classification) : Prop where
  /-- There is something to combine. -/
  nonempty : members ≠ []
  /-- No member is itself combined. -/
  flat : ∀ member ∈ members, member.isCombined = false
  /-- No member is stable. -/
  notStable : ∀ member ∈ members, member.isStable = false
  /-- No two members have one key. -/
  distinct : (members.map key).Nodup
  /-- A member with another one behind it is not unstable; so the last one at most is. -/
  unstableLast : members.Pairwise fun earlier _ => earlier.isUnstable = false

/-- If the outcome is combined, its members look as they should. -/
def IsReduced (outcome : Classification) : Prop :=
  ∀ members, outcome = .combined members → Reduced members

section

variable {outcome : Classification} {outcomes : List Classification}

/-- An outcome that is not combined has no members. -/
theorem isReduced_of_single (single : outcome.isCombined = false) : outcome.IsReduced := by
  rintro members rfl
  cases single

@[simp] theorem isReduced_stable (reason : String) : IsReduced (.stable reason) :=
  isReduced_of_single rfl

@[simp] theorem isReduced_unstable (reason : String) : IsReduced (.unstable reason) :=
  isReduced_of_single rfl

@[simp] theorem isReduced_runtime (name reason : String) : IsReduced (.runtime name reason) :=
  isReduced_of_single rfl

/-- The leaves of a combined outcome of this shape are its members. -/
theorem leaves_eq_members {members : List Classification} (reduced : Reduced members) :
    (combined members).leaves = members := by
  rw [leaves, allLeaves_of_not_combined reduced.flat]

/-- An outcome that is not stable has leaves, none of which is stable, and the last of which at most
is unstable. -/
theorem IsReduced.leaves (reduced : outcome.IsReduced) (notStable : outcome.isStable = false) :
    outcome.leaves ≠ [] ∧ (∀ leaf ∈ outcome.leaves, leaf.isStable = false) ∧
      outcome.leaves.Pairwise fun earlier _ => earlier.isUnstable = false := by
  by_cases single : outcome.isCombined = false
  · rw [leaves_of_not_combined single]
    exact ⟨List.cons_ne_nil _ _, by simpa using notStable, List.pairwise_singleton _ _⟩
  · cases outcome with
    | combined members =>
      have shape := reduced members rfl
      rw [leaves_eq_members shape]
      exact ⟨shape.nonempty, shape.notStable, shape.unstableLast⟩
    | _ => exact absurd rfl single

/-- An outcome of this shape is stable exactly if it says so itself. -/
theorem IsReduced.isStable_iff (reduced : outcome.IsReduced) :
    outcome.isStable = true ↔ ∃ reason, outcome = .stable reason := by
  constructor
  · intro stable
    cases outcome with
    | stable reason => exact ⟨reason, rfl⟩
    | combined members =>
      have shape := reduced members rfl
      obtain ⟨member, there⟩ := List.exists_mem_of_ne_nil members shape.nonempty
      have good := allStable_iff.mp stable member there
      rw [shape.notStable member there] at good
      cases good
    | _ => cases stable
  · rintro ⟨reason, rfl⟩
    rfl

/-- Outcomes that are not stable combine to one of the shape, where the last one at most is
unstable. -/
theorem isReduced_combine (some : outcomes ≠ [])
    (reduced : ∀ outcome ∈ outcomes, outcome.IsReduced)
    (notStable : ∀ outcome ∈ outcomes, outcome.isStable = false)
    (unstableLast : (allLeaves outcomes).Pairwise fun earlier _ => earlier.isUnstable = false) :
    (combine outcomes).IsReduced := by
  rw [combine_eq]
  rintro _ ⟨⟩
  refine ⟨distinctFrom_ne_nil ?_, members_not_combined outcomes, ?_, nodup_keys_distinctFrom _ _,
    unstableLast.sublist (distinctFrom_sublist _ _)⟩
  · obtain ⟨outcome, member⟩ := List.exists_mem_of_ne_nil outcomes some
    obtain ⟨leaf, inside⟩ := List.exists_mem_of_ne_nil _
      ((reduced outcome member).leaves (notStable outcome member)).1
    exact List.ne_nil_of_mem (mem_allLeaves_iff.mpr ⟨outcome, member, inside⟩)
  · intro leaf kept
    obtain ⟨outcome, member, inside⟩ := mem_allLeaves_iff.mp (mem_of_mem_distinctFrom kept)
    exact ((reduced outcome member).leaves (notStable outcome member)).2.1 leaf inside

end

end Classification

namespace Judge

open Classification

section

variable {outcome : TypeRef → Classification} {judge : Judge} {catalog : Catalog}
  {declaration : Declaration}

/-- The rules that look at the declaration alone combine nothing. -/
theorem isReduced_ownOutcome? {result : Classification}
    (h : judge.ownOutcome? declaration = some result) : result.IsReduced := by
  unfold ownOutcome? at h
  dsimp only at h
  iterate 5
    split at h
    · cases h
      exact isReduced_stable _
  split at h
  next bound =>
    cases h
    obtain ⟨name, -, decided⟩ := Option.bind_eq_some_iff.mp bound
    unfold nameOutcome? at decided
    split_ifs at decided <;> cases decided <;> simp
  split at h
  · cases h
    exact isReduced_stable _
  split at h
  · cases h
    exact isReduced_runtime _ _
  · cases h

/-- A value class passes on what it wraps where that is combined. -/
theorem isReduced_valueClass (parts : ∀ part, (outcome part).IsReduced) :
    (valueClass (m := Id) outcome declaration : Classification).IsReduced := by
  unfold valueClass
  cases declaration.wrapped with
  | none => exact isReduced_runtime _ _
  | some property =>
    have inside := parts property.type
    dsimp only
    generalize outcome property.type = verdict at inside
    cases verdict with
    | combined members => exact inside
    | _ => exact isReduced_of_single rfl

/-- What is inherited from a type is combined where the outcome of that type is. -/
theorem isReduced_inheritedOutcome {supertype : TypeRef} {inherited : Classification}
    (part : inherited.IsReduced) : (inheritedOutcome supertype inherited).IsReduced := by
  cases inherited with
  | combined members => exact part
  | _ => exact isReduced_of_single rfl

/-- The members of a class are combined only where no property is unstable, and what is inherited
comes last. -/
theorem isReduced_membersOutcome {outcomes : List (String × Classification)}
    {inherited : Option Classification} (reduced : ∀ entry ∈ outcomes, entry.2.IsReduced)
    (inherits : ∀ c, inherited = some c → c.IsReduced ∧ c.isStable = false) :
    (membersOutcome outcomes inherited).IsReduced := by
  unfold membersOutcome
  dsimp only
  split
  next calm =>
    rw [List.isEmpty_iff, List.map_eq_nil_iff, List.filter_eq_nil_iff] at calm
    split
    · exact isReduced_stable _
    next something =>
      rw [List.isEmpty_iff] at something
      refine isReduced_combine something ?_ ?_ ?_
      · intro c member
        rcases List.mem_append.mp member with own | passed
        · obtain ⟨entry, there, rfl⟩ := List.mem_map.mp (List.mem_of_mem_filter own)
          exact reduced entry there
        · exact (inherits c (by simpa using passed)).1
      · intro c member
        rcases List.mem_append.mp member with own | passed
        · simpa using (List.mem_filter.mp own).2
        · exact (inherits c (by simpa using passed)).2
      · -- No leaf of a property is unstable, so only what is inherited can be.
        have properties : ∀ leaf ∈ allLeaves ((outcomes.map (·.2)).filter (!·.isStable)),
            leaf.isUnstable = false := by
          intro leaf member
          obtain ⟨c, own, inside⟩ := mem_allLeaves_iff.mp member
          obtain ⟨entry, there, rfl⟩ := List.mem_map.mp (List.mem_of_mem_filter own)
          rw [Bool.eq_false_iff]
          intro unstable
          exact calm entry there ((isUnstable_iff_leaves _).mpr ⟨leaf, inside, unstable⟩)
        rw [allLeaves_append, List.pairwise_append]
        refine ⟨List.pairwise_of_forall_mem_list fun leaf member _ _ => properties leaf member, ?_,
          fun leaf member _ _ => properties leaf member⟩
        cases inherited with
        | none => exact .nil
        | some c =>
          obtain ⟨shape, notStable⟩ := inherits c rfl
          rw [Option.toList_some, allLeaves, allLeaves, List.append_nil]
          exact (shape.leaves notStable).2.2
  · exact isReduced_unstable _

/-- What is inherited can be unstable, and then it stands behind the properties. -/
example : membersOutcome [("listener", .runtime "Listener" Reason.interface)]
    (some (.unstable (Reason.extendsUnstable "Counter"))) =
      .combined [.runtime "Listener" Reason.interface,
        .unstable (Reason.extendsUnstable "Counter")] :=
  rfl

/-- What the members of a concrete class come to has the shape where the parts have it. -/
theorem isReduced_concreteClass (parts : ∀ part, (outcome part).IsReduced) :
    (concreteClass (m := Id) catalog outcome declaration : Classification).IsReduced := by
  have inherits : ∀ c,
      supertypesOutcome? (m := Id) catalog outcome declaration.supertypes = some c →
      c.IsReduced ∧ c.isStable = false := by
    intro c passed
    obtain ⟨supertype, -, -, notStable, rfl⟩ := supertypesOutcome?_eq_some passed
    exact ⟨isReduced_inheritedOutcome (parts supertype), inheritedOutcome_isStable notStable⟩
  rw [concreteClass_id]
  split
  · cases passed : supertypesOutcome? (m := Id) catalog outcome declaration.supertypes with
    | none => exact isReduced_stable _
    | some c => exact (inherits c passed).1
  · split
    · exact isReduced_unstable _
    · refine isReduced_membersOutcome (fun entry member => ?_) inherits
      obtain ⟨property, -, rfl⟩ := List.mem_map.mp member
      exact parts property.type

/-- The rules for interfaces, abstract classes and concrete classes keep the shape. -/
theorem isReduced_openClass (parts : ∀ part, (outcome part).IsReduced) :
    (judge.openClass (m := Id) outcome declaration : Classification).IsReduced := by
  unfold openClass
  split
  · exact isReduced_runtime _ _
  · split
    · exact isReduced_runtime _ _
    · change (withInference declaration
        (concreteClass (m := Id) judge.catalog outcome declaration)).IsReduced
      unfold withInference
      split
      · exact isReduced_concreteClass parts
      · split
        · exact isReduced_stable _
        · exact isReduced_runtime _ _
        · exact isReduced_concreteClass parts

/-- The rules for a declaration keep the shape. -/
theorem isReduced_classRules (parts : ∀ part, (outcome part).IsReduced) :
    (judge.classRules (m := Id) outcome declaration : Classification).IsReduced := by
  unfold classRules
  split
  next own => exact isReduced_ownOutcome? own
  · split
    · exact isReduced_valueClass parts
    · split
      · exact isReduced_stable _
      · split
        · change IsReduced (match markedClass (m := Id) outcome declaration with
            | some result => result
            | none => judge.openClass (m := Id) outcome declaration)
          rw [markedClass_id]
          split_ifs
          · exact isReduced_unstable _
          · exact isReduced_stable _
          · exact isReduced_openClass parts
        · exact isReduced_openClass parts

/-- Analyzing a declaration keeps the shape, whichever declarations are under analysis. -/
theorem isReduced_analyzeClass (parts : ∀ part, (outcome part).IsReduced)
    (declarations : DeclarationGuard) :
    IsReduced (judge.analyzeClass (m := Id) outcome declaration declarations :
      Classification × DeclarationGuard).1 := by
  unfold analyzeClass
  split
  · exact isReduced_stable _
  · split
    · exact isReduced_of_single rfl
    · exact isReduced_classRules parts

/-- What a reference makes of its declaration has the shape. -/
theorem isReduced_declarationOutcome (parts : ∀ part, (outcome part).IsReduced)
    (annotations : List String) :
    IsReduced (judge.declarationOutcome (m := Id) outcome annotations declaration) := by
  unfold declarationOutcome
  split
  · exact isReduced_stable _
  · exact isReduced_analyzeClass parts .empty

end

/-- The outcome of a type has the shape where those of its parts have it, also where the model
fails. -/
theorem isReduced_typeOutcome (judge : Judge) {outcome : TypeRef → Classification}
    (parts : ∀ part, (outcome part).IsReduced) (type : TypeRef) (signature : String) :
    IsReduced (recovered signature
      (judge.typeOutcome (m := Except Fault) (fun part => .ok (outcome part)) type)) := by
  unfold typeOutcome
  rcases reached : expandAliases judge.model type with
    fault | ⟨⟨declarationId, arguments, marks⟩ | _ | _ | _⟩ | stuck
  · exact isReduced_runtime _ _
  · simp only [answer, pure_bind]
    rcases judge.model.resolve (TypeRef.nominal declarationId arguments marks).nonNull with
      fault | _ | declaration
    · exact isReduced_runtime _ _
    · exact isReduced_runtime _ _
    · change IsReduced (recovered signature (judge.declarationOutcome _ _ declaration))
      rw [declarationOutcome_succeeds]
      exact isReduced_declarationOutcome parts _
  · exact isReduced_of_single rfl
  · exact isReduced_stable _
  · exact isReduced_runtime _ _
  · obtain ⟨name, reason, rfl⟩ := exists_runtime_of_stuck reached
    exact isReduced_runtime _ _

/-- Every outcome has the shape: at every room and with whatever signatures entered. -/
theorem isReduced_outcomeWithin (judge : Judge) (room : Nat) (active : List String)
    (type : TypeRef) : (judge.outcomeWithin room active type).IsReduced := by
  induction room generalizing active type with
  | zero =>
    rw [outcomeWithin]
    split <;> exact isReduced_runtime _ _
  | succ room ih =>
    rw [outcomeWithin]
    split
    · exact isReduced_runtime _ _
    · exact isReduced_typeOutcome judge (ih (type.signature :: active)) type type.signature

/-- Whatever the model answers and whatever is entered on either guard, the outcome of a type and
that of a declaration have the shape: where they are combined there are members, none of them
combined or stable, with keys of their own, and only the last one may be unstable. So an outcome is
stable exactly if it says so itself. -/
theorem combined_outcomes_are_reduced (judge : Judge) :
    (∀ reading guard, ∃ outcome,
      (judge.classifyReading reading).runOn guard = (.ok outcome, guard) ∧ outcome.IsReduced ∧
        (outcome.isStable = true ↔ ∃ reason, outcome = .stable reason)) ∧
    ∀ declaration declarations guard, ∃ outcome,
      (judge.classifyClass declaration declarations).runOn guard =
        (.ok (outcome, declarations), guard) ∧ outcome.IsReduced ∧
        (outcome.isStable = true ↔ ∃ reason, outcome = .stable reason) := by
  constructor
  · intro reading guard
    cases reading with
    | ok type =>
      have reduced := judge.isReduced_outcomeWithin guard.room guard.active type
      exact ⟨_, classify_runOn judge type guard, reduced, reduced.isStable_iff⟩
    | error fault =>
      have reduced : (failureOutcome Reason.unreadableType fault).IsReduced :=
        isReduced_runtime _ _
      exact ⟨_, rfl, reduced, reduced.isStable_iff⟩
  · intro declaration declarations guard
    have run := classifyClass_runOn judge declaration declarations guard
    have back := analyzeClass_guard judge (judge.outcomeOn guard) declaration declarations
    have reduced : IsReduced
        (judge.analyzeClass (m := Id) (judge.outcomeOn guard) declaration declarations :
          Classification × DeclarationGuard).1 :=
      isReduced_analyzeClass (judge.isReduced_outcomeWithin guard.room guard.active) declarations
    refine ⟨_, ?_, reduced, reduced.isStable_iff⟩
    rw [run]
    exact congrArg (fun after => (Except.ok (_, after), guard)) back

end Judge

end StableTypes
