import StableTypes.Proofs.AskedParts

/-!
# Degraded classifications

A classification is degraded where the model fails at more queries or fewer signatures
fit on the stack. Each cut leaves a type to run time, and from there the verdicts of the
two runs are compared along the visits of the degraded one: what it calls stable or
unstable, the other run calls the same. The two rules that are not monotone have to be
kept from deciding: in the other run a class that was found to be stable before must not be
unstable there, and a marked class with stable properties must not owe it to its marker that
it is not.
-/

namespace StableTypes

/-- One model answers as the other does, or fails. -/
structure TypeModel.Weakens (model' model : TypeModel) : Prop where
  /-- A declaration that is found is the one that the other model finds. -/
  resolve : ∀ type, (∃ fault, model'.resolve type = .error fault) ∨
    model'.resolve type = model.resolve type
  /-- An alias that is expanded is expanded as in the other model. -/
  expandAlias : ∀ type, (∃ fault, model'.expandAlias type = .error fault) ∨
    model'.expandAlias type = model.expandAlias type

/-- A query fails for an id with a fault, and is answered as before for the others. -/
theorem faulty_eq {α : Type} (faults : Table Fault) (id : String) (answer : Except Fault α) :
    (∃ fault, faulty faults id answer = .error fault) ∨ faulty faults id answer = answer := by
  unfold faulty
  cases Table.get? id faults with
  | some fault => exact .inl ⟨fault, rfl⟩
  | none => exact .inr rfl

/-- Failing at some ids weakens a model. -/
theorem TypeModel.failingAt_weakens (model : TypeModel) (resolving expanding : Table Fault) :
    (model.failingAt resolving expanding).Weakens model where
  resolve type := by
    rcases type with ⟨declarationId, -, -⟩ | _ | _ | _
    · exact faulty_eq resolving declarationId _
    · exact .inr rfl
    · exact .inr rfl
    · exact .inr rfl
  expandAlias type := by
    rcases type with _ | _ | _ | ⟨aliasId, -, -⟩
    · exact .inr rfl
    · exact .inr rfl
    · exact .inr rfl
    · exact faulty_eq expanding aliasId _

namespace Judge

/-- One judge is the other, degraded: the model fails at more queries, or fewer signatures
fit on the stack. -/
structure DegradedFrom (judge' judge : Judge) : Prop where
  /-- The model answers as the other does, or fails. -/
  model : judge'.model.Weakens judge.model
  /-- The catalogs are the same. -/
  catalog : judge'.catalog = judge.catalog
  /-- The policies have the same patterns. -/
  policy : judge'.policy.SamePatterns judge.policy
  /-- No more signatures fit on the stack. -/
  depth : judge'.policy.maxRecursionDepth ≤ judge.policy.maxRecursionDepth

section

variable {model' model : TypeModel}

/-- A weaker model fails to expand aliases, or expands them as the other does. -/
theorem expandWithin_weakens (weakens : model'.Weakens model) (start : TypeRef) (levels : Nat)
    (type : TypeRef) :
    (∃ fault, expandWithin model' start levels type = .error fault) ∨
      expandWithin model' start levels type = expandWithin model start levels type := by
  induction levels generalizing type with
  | zero => exact .inr rfl
  | succ levels ih =>
    unfold expandWithin
    by_cases abbreviates : type.isAlias = true
    · rw [if_pos abbreviates, if_pos abbreviates]
      rcases weakens.expandAlias type with ⟨fault, fails⟩ | same
      · rw [fails]
        exact .inl ⟨fault, rfl⟩
      · rw [same]
        cases model.expandAlias type with
        | error fault => exact .inl ⟨fault, rfl⟩
        | ok next =>
          dsimp only
          split
          · exact .inr rfl
          · exact ih next
    · rw [if_neg abbreviates, if_neg abbreviates]
      exact .inr rfl

/-- With a weaker model the outcome of a type is a fault or what it was. -/
theorem typeOutcome_weakens {catalog : Catalog} {policy : Policy}
    (weakens : model'.Weakens model) (classify : TypeRef → Except Fault Classification)
    (type : TypeRef) :
    (∃ fault, typeOutcome ⟨model', catalog, policy⟩ classify type = .error fault) ∨
      typeOutcome ⟨model', catalog, policy⟩ classify type =
        typeOutcome ⟨model, catalog, policy⟩ classify type := by
  unfold typeOutcome
  rcases expandWithin_weakens weakens type maxAliasExpansions type with ⟨fault, fails⟩ | same
  · refine .inl ⟨fault, ?_⟩
    unfold expandAliases
    rw [fails]
    rfl
  · unfold expandAliases
    rw [same]
    rcases expandWithin model type maxAliasExpansions type with fault | ⟨expanded⟩ | stuck
    · exact .inl ⟨fault, rfl⟩
    · rcases expanded with ⟨declarationId, arguments, marks⟩ | _ | _ | _
      · simp only [answer, pure_bind]
        rcases weakens.resolve (TypeRef.nominal declarationId arguments marks).nonNull with
          ⟨fault, fails⟩ | same
        · refine .inl ⟨fault, ?_⟩
          rw [fails]
          rfl
        · refine .inr ?_
          rw [same]
          rfl
      · exact .inr rfl
      · exact .inr rfl
      · exact .inr rfl
    · exact .inr rfl

end

variable {judge judge' : Judge}

/-- A degraded judge fails at a type, or applies the same rules. -/
theorem DegradedFrom.typeOutcome (degraded : judge'.DegradedFrom judge)
    (classify : TypeRef → Except Fault Classification) (type : TypeRef) :
    (∃ fault, judge'.typeOutcome classify type = .error fault) ∨
      judge'.typeOutcome classify type = judge.typeOutcome classify type := by
  obtain ⟨model', catalog', policy'⟩ := judge'
  obtain ⟨model, catalog, policy⟩ := judge
  obtain rfl : catalog' = catalog := degraded.catalog
  rw [typeOutcome_samePatterns degraded.policy]
  exact typeOutcome_weakens degraded.model classify type

/-- A degraded judge leaves a type to run time, or makes the same of the outcomes of its parts. -/
theorem DegradedFrom.ruledOutcome (degraded : judge'.DegradedFrom judge)
    (outcome : TypeRef → Classification) (type : TypeRef) :
    ((judge'.ruledOutcome outcome type).isStable = false ∧
      (judge'.ruledOutcome outcome type).isUnstable = false) ∨
    judge'.ruledOutcome outcome type = judge.ruledOutcome outcome type := by
  rcases degraded.typeOutcome (fun part => .ok (outcome part)) type with ⟨fault, fails⟩ | same
  · unfold Judge.ruledOutcome
    rw [fails]
    exact .inl ⟨rfl, rfl⟩
  · exact .inr (congrArg (recovered type.signature) same)

/-- The outcomes of parts in a degraded run where that run asks for them, and in the other run
elsewhere. -/
noncomputable def mixedOutcome (judge judge' : Judge) (extra : Nat) (visit : Visit) :
    TypeRef → Classification :=
  judge'.onAsked visit.type (judge'.outcomeBelow visit) (judge.outcomeBelow (visit.withMore extra))

/-- What holds of the mixed outcomes holds of the other run's, where it is carried over to that run
for the parts that the degraded run asks about. -/
theorem mixedOutcome_carries (holds : Classification → Bool) {extra : Nat} {visit : Visit}
    (opens : visit.Opens)
    (asked : ∀ part ∈ judge'.asked (judge'.outcomeBelow visit) visit.type,
      holds (judge'.outcomeAt (visit.below part)) = true →
        holds (judge.outcomeAt ((visit.below part).withMore extra)) = true) (part : TypeRef)
    (h : holds (judge.mixedOutcome judge' extra visit part) = true) :
    holds (judge.outcomeBelow (visit.withMore extra) part) = true := by
  refine onAsked_induction (motive := fun part outcome => holds outcome = true →
    holds (judge.outcomeBelow (visit.withMore extra) part) = true) (fun part there good => ?_)
    (fun _ good => good) part h
  rw [outcomeBelow, opens.below_withMore]
  exact asked part there good

/-- A degraded run leaves a type to run time, or it comes to what the rules of the other judge make
of outcomes that are the other run's where the degraded run does not ask. -/
theorem DegradedFrom.outcomeAt_cases (degraded : judge'.DegradedFrom judge) (extra : Nat)
    (visit : Visit) :
    ((judge'.outcomeAt visit).isStable = false ∧ (judge'.outcomeAt visit).isUnstable = false) ∨
    visit.Opens ∧
      judge'.outcomeAt visit =
        judge.ruledOutcome (judge.mixedOutcome judge' extra visit) visit.type ∧
      judge.outcomeAt (visit.withMore extra) =
        judge.ruledOutcome (judge.outcomeBelow (visit.withMore extra)) visit.type := by
  by_cases opens : visit.Opens
  · have own : judge'.outcomeAt visit =
        judge'.ruledOutcome (judge.mixedOutcome judge' extra visit) visit.type :=
      (outcomeAt_of_opens opens).trans (ruledOutcome_onAsked ..).symm
    rcases degraded.ruledOutcome (judge.mixedOutcome judge' extra visit) visit.type with
      undecided | same
    · rw [own]
      exact .inl undecided
    · exact .inr ⟨opens, own.trans same, outcomeAt_of_opens (opens.withMore extra)⟩
  · exact .inl (outcomeAt_of_not_opens opens)

/-- What a degraded run calls stable, the other run calls stable, where no class is unstable there
that was found to be stable before and that the degraded run visits. -/
theorem DegradedFrom.isStable_outcomeAt (degraded : judge'.DegradedFrom judge) (extra : Nat)
    (visit : Visit)
    (inference : ∀ later, judge'.LeadsTo visit later →
      judge.InferenceHolds (later.withMore extra))
    (h : (judge'.outcomeAt visit).isStable = true) :
    (judge.outcomeAt (visit.withMore extra)).isStable = true := by
  induction room : visit.room using Nat.strongRecOn generalizing visit with
  | ind room ih =>
    rcases degraded.outcomeAt_cases extra visit with ⟨undecided, -⟩ | ⟨opens, cut, own⟩
    · rw [undecided] at h
      cases h
    · have stable := mixedOutcome_carries (·.isStable) opens fun part there good =>
        ih (visit.below part).room (room ▸ opens.room_below_lt) (visit.below part)
          (fun later leads => inference later (.head (.part opens there) leads)) good rfl
      rw [cut] at h
      rw [own]
      refine isStable_ruledOutcome_carries (fun part _ => stable part) ?_ h
      rw [← own]
      exact inference visit .refl

/-- No marked class has stable properties while its members would make it unstable. -/
def MarkerHolds (judge : Judge) (visit : Visit) : Prop :=
  ∀ declaration, judge.model.RefersTo visit.type declaration →
    judge.ownOutcome? declaration = none →
    judge.catalog.hasMarkerAnnotation declaration.annotations = true →
    declaration.IsConcrete → declaration.NoneMutable →
    (∀ property ∈ declaration.properties,
      (judge.outcomeBelow visit property.type).isStable = true) →
    (concreteClass (m := Id) judge.catalog (judge.outcomeBelow visit) declaration :
      Classification).isUnstable = false

/-- What a degraded run calls unstable, the other run calls unstable, where moreover no marked class
that the degraded run visits has stable properties and members that would make it unstable. -/
theorem DegradedFrom.isUnstable_outcomeAt (degraded : judge'.DegradedFrom judge) (extra : Nat)
    (visit : Visit)
    (inference : ∀ later, judge'.LeadsTo visit later →
      judge.InferenceHolds (later.withMore extra))
    (markers : ∀ later, judge'.LeadsTo visit later → judge.MarkerHolds (later.withMore extra))
    (h : (judge'.outcomeAt visit).isUnstable = true) :
    (judge.outcomeAt (visit.withMore extra)).isUnstable = true := by
  induction room : visit.room using Nat.strongRecOn generalizing visit with
  | ind room ih =>
    rcases degraded.outcomeAt_cases extra visit with ⟨-, undecided⟩ | ⟨opens, cut, own⟩
    · rw [undecided] at h
      cases h
    · have stable := mixedOutcome_carries (·.isStable) opens fun part there good =>
        degraded.isStable_outcomeAt extra (visit.below part)
          (fun later leads => inference later (.head (.part opens there) leads)) good
      have unstable := mixedOutcome_carries (·.isUnstable) opens fun part there bad =>
        ih (visit.below part).room (room ▸ opens.room_below_lt) (visit.below part)
          (fun later leads => inference later (.head (.part opens there) leads))
          (fun later leads => markers later (.head (.part opens there) leads)) bad rfl
      rw [cut] at h
      rw [own]
      refine isUnstable_ruledOutcome_carries (fun part _ => stable part)
        (fun part _ => unstable part)
        (fun declaration refers own marker concrete fixed now => .inr ?_) h
      -- Members that make the class unstable in the degraded run do so in the other run.
      have calm := markers visit .refl declaration refers own marker concrete fixed now
      rw [Bool.eq_false_iff] at calm ⊢
      exact fun worse => calm (isUnstable_concreteClass_carries (fun part _ => stable part)
        (fun part _ => unstable part) worse)

/-- A degraded classification calls a type stable only if the other one does, provided that no
class is unstable there which was found to be stable before and which the degraded one visits.
Provided moreover that none of its visits is to a marked class that has stable properties there and
members that would make it unstable, it leaves the type to run time or gives the same verdict. -/
theorem degradation_is_conservative (degraded : judge'.DegradedFrom judge) (type : TypeRef)
    (inference : ∀ visit, judge'.FreshVisit type visit →
      judge.InferenceHolds (visit.withMore (judge.freshGuard.room - judge'.freshGuard.room))) :
    ∃ verdict verdict', judge.freshVerdict type = .ok verdict ∧
      judge'.freshVerdict type = .ok verdict' ∧
      (verdict' = .stable → verdict = .stable) ∧
      ((∀ visit, judge'.FreshVisit type visit →
        judge.MarkerHolds (visit.withMore (judge.freshGuard.room - judge'.freshGuard.room))) →
          verdict' = .runtime ∨ verdict' = verdict) := by
  have less : judge'.freshGuard.room ≤ judge.freshGuard.room := by
    have depth := degraded.depth
    simp only [SignatureGuard.room, SignatureGuard.depth, freshGuard, SignatureGuard.fresh,
      List.length_nil]
    omega
  have more : (Visit.start judge'.freshGuard.room type).withMore
      (judge.freshGuard.room - judge'.freshGuard.room) = .start judge.freshGuard.room type := by
    rw [Visit.withMore, Visit.start, Visit.start, Nat.add_sub_cancel' less]
  have stable := degraded.isStable_outcomeAt _ _ inference
  rw [more] at stable
  refine ⟨_, _, judge.freshVerdict_eq type, judge'.freshVerdict_eq type, ?_, fun markers => ?_⟩
  · intro h
    exact Classification.verdict_eq_stable_iff.mpr
      (stable (Classification.verdict_eq_stable_iff.mp h))
  · have unstable := degraded.isUnstable_outcomeAt _ _ inference markers
    rw [more] at unstable
    cases cut : (judge'.outcomeOn judge'.freshGuard type).verdict with
    | stable =>
      have kept := stable (Classification.verdict_eq_stable_iff.mp cut)
      exact .inr (Classification.verdict_eq_stable_iff.mpr kept).symm
    | unstable =>
      have kept := unstable (Classification.verdict_eq_unstable_iff.mp cut)
      exact .inr (Classification.verdict_eq_unstable_iff.mpr kept).symm
    | runtime => exact .inl rfl

/-- A judge whose model fails for the ids with a fault. -/
def failingAt (judge : Judge) (resolving expanding : Table Fault) : Judge :=
  { judge with model := judge.model.failingAt resolving expanding }

/-- Failing at some ids degrades a judge. -/
theorem failingAt_degradedFrom (judge : Judge) (resolving expanding : Table Fault) :
    (judge.failingAt resolving expanding).DegradedFrom judge where
  model := judge.model.failingAt_weakens resolving expanding
  catalog := rfl
  policy := ⟨fun _ => rfl, fun _ => rfl⟩
  depth := Nat.le_refl _

/-- A judge with room for that many signatures. -/
def withDepth (judge : Judge) (depth : Nat) : Judge :=
  { judge with policy := { judge.policy with maxRecursionDepth := depth } }

/-- Less room degrades a judge. -/
theorem withDepth_degradedFrom (judge : Judge) {depth : Nat}
    (less : depth ≤ judge.policy.maxRecursionDepth) :
    (judge.withDepth depth).DegradedFrom judge where
  model := ⟨fun _ => .inr rfl, fun _ => .inr rfl⟩
  catalog := rfl
  policy := ⟨fun _ => rfl, fun _ => rfl⟩
  depth := less

end Judge

/-- Where the entries are annotated as stable, no type is unstable. -/
theorem Judge.isUnstable_ofCache (room : Nat) (active : List String) (type : TypeRef) :
    ((ofCache false).outcomeWithin room active type).isUnstable = false :=
  isUnstable_outcomeWithin_ofSnapshot (by decide) (by decide) room active type

/-- Where the entries are annotated as stable, the marked class is left to run time without its key
or judged as with it, and the class found to be stable before is left to run time without room for
its entries or judged as with it. -/
theorem Judge.cache_degrades :
    (((ofCache false).failingAt [("Key", .error "gone")] []).DegradedFrom (ofCache false) ∧
      ∃ verdict verdict', (ofCache false).freshVerdict (.ofClass "Record") = .ok verdict ∧
        ((ofCache false).failingAt [("Key", .error "gone")] []).freshVerdict (.ofClass "Record") =
          .ok verdict' ∧
        (verdict' = .stable → verdict = .stable) ∧ (verdict' = .runtime ∨ verdict' = verdict)) ∧
    ((ofCache false).withDepth 1).DegradedFrom (ofCache false) ∧
      ∃ verdict verdict', (ofCache false).freshVerdict (.ofClass "Cache") = .ok verdict ∧
        ((ofCache false).withDepth 1).freshVerdict (.ofClass "Cache") = .ok verdict' ∧
        (verdict' = .stable → verdict = .stable) ∧ (verdict' = .runtime ∨ verdict' = verdict) := by
  have inference (visit : Visit) : (ofCache false).InferenceHolds visit :=
    fun _ _ _ _ _ _ => isUnstable_ofCache _ _ _
  have markers (visit : Visit) : (ofCache false).MarkerHolds visit := by
    intro declaration _ _ _ _ fixed _
    rw [Bool.eq_false_iff]
    intro unstable
    rcases isUnstable_concreteClass unstable with assigned | ⟨part, -, bad⟩
    · exact assigned fixed
    · exact Bool.eq_false_iff.mp (isUnstable_ofCache _ _ _) bad
  constructor
  · have degraded := failingAt_degradedFrom (ofCache false) [("Key", .error "gone")] []
    obtain ⟨verdict, verdict', run, run', stable, kept⟩ := degradation_is_conservative degraded
      (.ofClass "Record") fun visit _ => inference _
    exact ⟨degraded, verdict, verdict', run, run', stable, kept fun visit _ => markers _⟩
  · have degraded : ((ofCache false).withDepth 1).DegradedFrom (ofCache false) :=
      withDepth_degradedFrom _ (by decide)
    obtain ⟨verdict, verdict', run, run', stable, kept⟩ := degradation_is_conservative degraded
      (.ofClass "Cache") fun visit _ => inference _
    exact ⟨degraded, verdict, verdict', run, run', stable, kept fun visit _ => markers _⟩

/-- Where the entries are bare, the class found to be stable before is unstable, and stable
without the entries or without room for them; the marked class is stable, and unstable without
its key. -/
theorem Judge.degradation_changes_verdicts :
    (((ofCache true).failingAt [("Entries", .error "gone")] []).DegradedFrom (ofCache true) ∧
      ((ofCache true).withDepth 1).DegradedFrom (ofCache true) ∧
      ((ofCache true).failingAt [("Key", .error "gone")] []).DegradedFrom (ofCache true)) ∧
    ((ofCache true).freshVerdict (.ofClass "Cache") = .ok .unstable ∧
      ((ofCache true).failingAt [("Entries", .error "gone")] []).freshVerdict (.ofClass "Cache") =
        .ok .stable ∧
      ((ofCache true).withDepth 1).freshVerdict (.ofClass "Cache") = .ok .stable) ∧
    (ofCache true).freshVerdict (.ofClass "Record") = .ok .stable ∧
    ((ofCache true).failingAt [("Key", .error "gone")] []).freshVerdict (.ofClass "Record") =
      .ok .unstable := by
  refine ⟨⟨failingAt_degradedFrom _ _ _, withDepth_degradedFrom _ (by decide),
    failingAt_degradedFrom _ _ _⟩, ⟨?_, ?_, ?_⟩, ?_, ?_⟩
  · decide
  · decide
  · decide
  · decide
  · decide

end StableTypes
