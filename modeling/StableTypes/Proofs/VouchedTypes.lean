import StableTypes.Proofs.AskedParts
import StableTypes.Proofs.VerdictOrder

/-!
# Vouching for more types

A policy with more patterns leaves more declarations out or vouches for more of them, and each
of these is stable then. The verdict of a type gets no worse, by induction on the room left, as
long as no class that is visited extends something that is stable only now before something that
is unstable: there the first of them has decided so far, and once it is stable the next one does.
-/

namespace StableTypes

/-- The options have the same patterns and more. -/
structure PolicyOptions.AddsPatterns (more options : PolicyOptions) : Prop where
  /-- Types are analyzed in both cases or in neither. -/
  enabled : more.enabled = options.enabled
  /-- As many types may be under classification at once. -/
  depth : more.maxRecursionDepth = options.maxRecursionDepth
  /-- No pattern of names that are left out is missing. -/
  ignored : options.ignoredTypePatterns ⊆ more.ignoredTypePatterns
  /-- No pattern of names that are vouched for is missing. -/
  customStable : options.customStableTypePatterns ⊆ more.customStableTypePatterns

/-- More patterns accept more names. -/
theorem PatternMatcher.accepts_of_subset {patterns more : List String} (subset : patterns ⊆ more)
    {name : String} (h : (ofPatterns patterns).accepts name = true) :
    (ofPatterns more).accepts name = true := by
  simp only [accepts, ofPatterns, usable, Bool.and_eq_true, List.any_map, List.any_eq_true,
    List.mem_filter, List.mem_map] at h ⊢
  obtain ⟨named, pattern, ⟨⟨given, member, trimmed⟩, filled⟩, matched⟩ := h
  exact ⟨named, pattern, ⟨⟨given, subset member, trimmed⟩, filled⟩, matched⟩

namespace Policy

/-- A name is left out of the analysis or vouched for, so that what it names is stable. -/
def settles (policy : Policy) (name : String) : Bool :=
  policy.isIgnored name || policy.isCustomStable name

/-- What the options settle is settled with more patterns. -/
theorem settles_of_addsPatterns {more options : PolicyOptions} (adds : more.AddsPatterns options)
    {name : String} (h : (ofOptions options).settles name = true) :
    (ofOptions more).settles name = true := by
  simp only [settles, isIgnored, isCustomStable, Bool.or_eq_true] at h ⊢
  rcases h with (off | ignored) | vouched
  · refine .inl (.inl ?_)
    rwa [show (ofOptions more).enabled = (ofOptions options).enabled from adds.enabled]
  · exact .inl (.inr (PatternMatcher.accepts_of_subset adds.ignored ignored))
  · exact .inr (PatternMatcher.accepts_of_subset adds.customStable vouched)

end Policy

namespace Judge

variable {judge : Judge} {policy : Policy} {outcome better : TypeRef → Classification}
  {declaration : Declaration}

/-- A declaration that is settled is stable. -/
theorem isStable_classRules_of_settled (judge : Judge)
    (settled : judge.policy.settles declaration.displayName = true)
    (outcome : TypeRef → Classification) :
    (judge.classRules (m := Id) outcome declaration : Classification).verdict = .stable := by
  have own : ∃ reason, judge.ownOutcome? declaration = some (.stable reason) := by
    unfold ownOutcome?
    dsimp only
    split
    · exact ⟨_, rfl⟩
    next seen =>
      have vouched : judge.policy.isCustomStable declaration.displayName = true := by
        simpa [Policy.settles, seen] using settled
      rw [if_pos vouched]
      exact ⟨_, rfl⟩
  obtain ⟨reason, own⟩ := own
  rw [classRules, own]
  rfl

/-- A declaration that neither policy settles is decided by its names and annotations alike. -/
theorem ownOutcome?_withPolicy_of_unsettled
    (unsettled : judge.policy.settles declaration.displayName = false)
    (unsettled' : policy.settles declaration.displayName = false) :
    (judge.withPolicy policy).ownOutcome? declaration = judge.ownOutcome? declaration := by
  simp only [Policy.settles, Bool.or_eq_false_iff] at unsettled unsettled'
  simp only [ownOutcome?, withPolicy, unsettled.1, unsettled.2, unsettled'.1, unsettled'.2,
    Bool.false_eq_true, if_false]
  rfl

/-- A policy that settles more leaves an outcome as it is or makes it stable, or both policies judge
a declaration by its members alike. -/
theorem outcomeAt_withPolicy_cases
    (keeps : ∀ name, judge.policy.settles name = true → policy.settles name = true)
    (visit : Visit) :
    (judge.withPolicy policy).outcomeAt visit = judge.outcomeAt visit ∨
    ((judge.withPolicy policy).outcomeAt visit).verdict = .stable ∨
    visit.Opens ∧ ∃ declaration, judge.model.RefersTo visit.type declaration ∧
      declaration.kind ≠ .unknown ∧ (judge.withPolicy policy).ownOutcome? declaration = none ∧
      ∀ outcome,
        (judge.withPolicy policy).ruledOutcome outcome visit.type =
          judge.classRules (m := Id) outcome declaration ∧
        judge.ruledOutcome outcome visit.type = judge.classRules (m := Id) outcome declaration := by
  by_cases opens : visit.Opens
  · rw [outcomeAt_of_opens opens, outcomeAt_of_opens opens]
    rcases ruledOutcome_fixed_or_ruled_withPolicy judge visit.type with
      ⟨result, -, rule⟩ | ⟨declaration, refers, known, rule⟩
    · have own := rule judge.policy
      rw [withPolicy_self] at own
      rw [rule, own]
      exact .inl rfl
    · have own := rule judge.policy
      rw [withPolicy_self] at own
      cases newly : policy.settles declaration.displayName with
      | true =>
        rw [rule]
        exact .inr (.inl (isStable_classRules_of_settled (judge.withPolicy policy) newly _))
      | false =>
        have unsettled : judge.policy.settles declaration.displayName = false := by
          rw [Bool.eq_false_iff]
          intro settled
          rw [keeps _ settled] at newly
          cases newly
        have alike := ownOutcome?_withPolicy_of_unsettled unsettled newly
        have rules (outcome : TypeRef → Classification) :
            (judge.withPolicy policy).classRules (m := Id) outcome declaration =
              judge.classRules (m := Id) outcome declaration := by
          simp only [classRules, alike]
          rfl
        cases decided : judge.ownOutcome? declaration with
        | some result =>
          rw [rule, own, rules, classRules, classRules, decided]
          exact .inl rfl
        | none =>
          exact .inr (.inr ⟨opens, declaration, refers, known, alike.trans decided,
            fun outcome => ⟨(rule policy outcome).trans (rules outcome), own outcome⟩⟩)
  · exact .inl (outcomeAt_eq_of_not_opens _ _ opens)

/-- At a visit that makes a class with fixed properties unstable under the policy, the supertypes
before the one that decides have been stable under the judge's own policy. -/
def VouchesInOrder (judge : Judge) (policy : Policy) (visit : Visit) : Prop :=
  ∀ declaration, judge.model.RefersTo visit.type declaration →
    (judge.withPolicy policy).ownOutcome? declaration = none →
    declaration.IsConcrete → declaration.NoneMutable →
    ((judge.withPolicy policy).outcomeAt visit).isUnstable = true →
    KeepsFirst judge.catalog (judge.outcomeBelow visit)
      ((judge.withPolicy policy).outcomeBelow visit) declaration.supertypes

/-- The outcomes of parts under the policy where the rules ask for them, and under the judge's own
policy elsewhere. -/
noncomputable def keptOutcome (judge : Judge) (policy : Policy) (visit : Visit) :
    TypeRef → Classification :=
  (judge.withPolicy policy).onAsked visit.type ((judge.withPolicy policy).outcomeBelow visit)
    (judge.outcomeBelow visit)

/-- What is stable stays so where the parts that are asked about get no worse. -/
theorem isStable_keptOutcome {visit : Visit}
    (parts : ∀ part ∈ (judge.withPolicy policy).asked
        ((judge.withPolicy policy).outcomeBelow visit) visit.type,
      ((judge.withPolicy policy).outcomeBelow visit part).verdict ≤
        (judge.outcomeBelow visit part).verdict) (part : TypeRef)
    (good : (judge.outcomeBelow visit part).isStable = true) :
    (judge.keptOutcome policy visit part).isStable = true :=
  onAsked_induction (motive := fun part outcome =>
      (judge.outcomeBelow visit part).isStable = true → outcome.isStable = true)
    (fun part there => (Classification.verdict_le_iff.mp (parts part there)).1)
    (fun _ stays => stays) part good

section

variable (keeps : ∀ name, judge.policy.settles name = true → policy.settles name = true)
include keeps

/-- A policy that settles more makes a type unstable only if it was, where the parts that are asked
about get no worse and a class vouches in order. -/
theorem isUnstable_outcomeAt_of_withPolicy {visit : Visit}
    (inOrder : judge.VouchesInOrder policy visit)
    (parts : visit.Opens → ∀ part ∈ (judge.withPolicy policy).asked
        ((judge.withPolicy policy).outcomeBelow visit) visit.type,
      ((judge.withPolicy policy).outcomeBelow visit part).verdict ≤
        (judge.outcomeBelow visit part).verdict)
    (h : ((judge.withPolicy policy).outcomeAt visit).isUnstable = true) :
    (judge.outcomeAt visit).isUnstable = true := by
  rcases outcomeAt_withPolicy_cases keeps visit with
    same | stable | ⟨opens, declaration, refers, known, own, rule⟩
  · rwa [← same]
  · rw [Classification.verdict_eq_stable_iff] at stable
    rw [Classification.isUnstable_of_isStable stable] at h
    cases h
  · -- What is not asked about may be taken as it was, or to be undecided.
    let now := (judge.withPolicy policy).outcomeBelow visit
    let better := (judge.withPolicy policy).onAsked visit.type now fun _ => .runtime "" ""
    have ruled : (judge.withPolicy policy).outcomeAt visit =
        judge.classRules (m := Id) better declaration := by
      rw [outcomeAt_of_opens opens, ← (rule better).1]
      exact (ruledOutcome_onAsked ..).symm
    have same : judge.classRules (m := Id) (judge.keptOutcome policy visit) declaration =
        judge.classRules (m := Id) better declaration := by
      rw [← (rule _).1, ← (rule better).1]
      exact (ruledOutcome_onAsked ..).trans (ruledOutcome_onAsked ..).symm
    have unstable : ∀ part, (better part).isUnstable = true → (now part).isUnstable = true ∧
        (judge.outcomeBelow visit part).isUnstable = true :=
      onAsked_induction (motive := fun part outcome => outcome.isUnstable = true →
          (now part).isUnstable = true ∧ (judge.outcomeBelow visit part).isUnstable = true)
        (fun part there bad =>
          ⟨bad, (Classification.verdict_le_iff.mp (parts opens part there)).2 bad⟩)
        (fun _ bad => nomatch bad)
    have settled : ∀ part, (better part).isStable = true → (now part).isStable = true :=
      onAsked_induction (motive := fun part outcome => outcome.isStable = true →
          (now part).isStable = true)
        (fun _ _ good => good) (fun _ good => nomatch good)
    have turn := fun concrete fixed => inOrder declaration refers own concrete fixed h
    rw [ruled] at h
    rw [outcomeAt_of_opens opens, (rule _).2]
    refine isUnstable_classRules_of_keepsFirst known (isStable_keptOutcome (parts opens)) same
      (fun part _ bad => (unstable part bad).2) (fun concrete fixed => ?_) h
    intro before supertype after split root bad pass
    exact turn concrete fixed before supertype after split root (unstable supertype bad).1
      fun earlier member free => settled earlier (pass earlier member free)

/-- A policy that settles more gives a verdict that is no worse. -/
theorem verdict_outcomeAt_withPolicy_le (visit : Visit)
    (inOrder : ∀ later, (judge.withPolicy policy).LeadsTo visit later →
      judge.VouchesInOrder policy later) :
    ((judge.withPolicy policy).outcomeAt visit).verdict ≤ (judge.outcomeAt visit).verdict := by
  induction room : visit.room using Nat.strongRecOn generalizing visit with
  | ind room ih =>
    have parts (opens : visit.Opens) (part : TypeRef) (there : part ∈
        (judge.withPolicy policy).asked ((judge.withPolicy policy).outcomeBelow visit) visit.type) :
        ((judge.withPolicy policy).outcomeBelow visit part).verdict ≤
          (judge.outcomeBelow visit part).verdict :=
      ih (visit.below part).room (room ▸ opens.room_below_lt) (visit.below part)
        (fun later leads => inOrder later (.head (.part opens there) leads)) rfl
    have unstable := isUnstable_outcomeAt_of_withPolicy keeps (inOrder visit .refl) parts
    refine Classification.verdict_le_iff.mpr ⟨fun good => ?_, unstable⟩
    have calm : ((judge.withPolicy policy).outcomeAt visit).isUnstable = false := by
      rw [Bool.eq_false_iff]
      intro bad
      rw [Classification.isUnstable_of_isStable good] at unstable
      cases unstable bad
    rcases outcomeAt_withPolicy_cases keeps visit with
      same | stable | ⟨opens, declaration, refers, known, own, rule⟩
    · rwa [same]
    · exact Classification.verdict_eq_stable_iff.mp stable
    · have ruled : (judge.withPolicy policy).outcomeAt visit =
          judge.classRules (m := Id) (judge.keptOutcome policy visit) declaration := by
        rw [outcomeAt_of_opens opens, ← (rule _).1]
        exact (ruledOutcome_onAsked ..).symm
      rw [outcomeAt_of_opens opens, (rule _).2] at good
      rw [ruled] at calm ⊢
      exact isStable_classRules_carries known
        (fun part _ => isStable_keptOutcome (parts opens) part) (fun _ _ _ _ => calm) good

end

/-- Adding patterns of names that are left out or vouched for makes no verdict worse, provided that
at each visit which makes a class with fixed properties unstable then, the supertypes before the one
that decides have been stable all along. -/
theorem vouching_never_worsens (model : TypeModel) (catalog : Catalog)
    {more options : PolicyOptions} (adds : more.AddsPatterns options) (judge judge' : Judge)
    (before : judge = ⟨model, catalog, .ofOptions options⟩)
    (after : judge' = ⟨model, catalog, .ofOptions more⟩) (type : TypeRef)
    (inOrder : ∀ visit, judge'.FreshVisit type visit →
      judge.VouchesInOrder (.ofOptions more) visit) :
    ∃ verdict verdict', judge.freshVerdict type = .ok verdict ∧
      judge'.freshVerdict type = .ok verdict' ∧ verdict' ≤ verdict := by
  obtain rfl : judge' = judge.withPolicy (.ofOptions more) := by
    rw [after, before]
    rfl
  have keeps : ∀ name, judge.policy.settles name = true →
      (Policy.ofOptions more).settles name = true := by
    rw [before]
    exact fun name => Policy.settles_of_addsPatterns adds
  have depth : (judge.withPolicy (.ofOptions more)).freshGuard = judge.freshGuard := by
    simp only [before, withPolicy, freshGuard, Policy.ofOptions, adds.depth]
  have le := verdict_outcomeAt_withPolicy_le keeps _ inOrder
  refine ⟨_, _, freshVerdict_eq _ type, freshVerdict_eq _ type, ?_⟩
  rw [outcomeOn, outcomeOn, ← depth]
  exact le

end Judge

/-- Listeners, an interface. -/
def DeclarationShape.listener : DeclarationShape :=
  { finalClass "Listener" with kind := .interface, modality := .abstract }

/-- Accounts, whose balance is assigned but which are annotated as stable. -/
def DeclarationShape.account : DeclarationShape :=
  { finalClass "Account" with
    modality := .opened
    properties := [⟨"balance", .nominal "Account" none {}, true⟩]
    annotations := ["Stable"] }

/-- A listener, a counter whose count is assigned, an account, and a button and a panel that extend
the given types. The panel was found to be stable before. -/
def Snapshot.widgets (supertypes : List String) : Snapshot where
  declarations := [
    .listener,
    { DeclarationShape.finalClass "Counter" with
      modality := .opened
      properties := [⟨"count", .nominal "Counter" none {}, true⟩] },
    .account,
    { DeclarationShape.finalClass "Button" with
      supertypes := supertypes.map (.nominal · none {}) },
    { DeclarationShape.finalClass "Panel" with
      supertypes := supertypes.map (.nominal · none {})
      inferredParameters := some 0 }]
  aliases := []
  callables := []

/-- The listener is vouched for. -/
def PolicyOptions.listenerVouched : PolicyOptions := { customStableTypePatterns := ["Listener"] }

/-- One more name is vouched for than without options. -/
theorem PolicyOptions.listenerVouched_addsPatterns : listenerVouched.AddsPatterns {} where
  enabled := rfl
  depth := rfl
  ignored := by simp
  customStable := by simp

namespace Judge

/-- The widgets under some options, with one annotation for a promise of stability. -/
def ofWidgets (supertypes : List String) (options : PolicyOptions) : Judge :=
  ofSnapshot (.widgets supertypes) { (default : Catalog) with stableAnnotations := ["Stable"] }
    (.ofOptions options)

/-- The types that a widget extends. -/
theorem supertypes_ofWidgets {supertypes : List String} {options : PolicyOptions} {type : TypeRef}
    {declaration : Declaration}
    (refers : (ofWidgets supertypes options).model.RefersTo type declaration) :
    declaration.supertypes = [] ∨ declaration.supertypes = supertypes.map (.ofClass ·) := by
  obtain ⟨shape, there, rfl⟩ := Snapshot.exists_shape_of_refersTo refers
  simp only [Snapshot.widgets, List.mem_cons, List.not_mem_nil, or_false] at there
  rcases there with rfl | rfl | rfl | rfl | rfl
  · exact .inl rfl
  · exact .inl rfl
  · exact .inl rfl
  · exact .inr (List.map_map ..)
  · exact .inr (List.map_map ..)

/-- Neither a listener nor an account is unstable once the listener is vouched for. -/
theorem isUnstable_ofWidgets {supertypes : List String} {visit : Visit}
    (calm : visit.type = .ofClass "Listener" ∨ visit.type = .ofClass "Account") :
    ((ofWidgets supertypes .listenerVouched).outcomeAt visit).isUnstable = false := by
  by_cases opens : visit.Opens
  · rw [outcomeAt_of_opens opens]
    rcases calm with listener | account
    · have refers : (ofWidgets supertypes .listenerVouched).model.RefersTo visit.type
          (.ofShape .listener) := by
        rw [listener]
        exact (TypeModel.StandsFor.itself _ rfl).refersTo_iff.mpr ⟨rfl, rfl⟩
      have own : ((ofWidgets [] .listenerVouched).ownOutcome? (.ofShape .listener)).any
          (·.isStable) = true := by decide +kernel
      exact isUnstable_ruledOutcome_of_own refers own _
    · have refers : (ofWidgets supertypes .listenerVouched).model.RefersTo visit.type
          (.ofShape .account) := by
        rw [account]
        exact (TypeModel.StandsFor.itself _ rfl).refersTo_iff.mpr ⟨rfl, rfl⟩
      have own : ((ofWidgets [] .listenerVouched).ownOutcome? (.ofShape .account)).any
          (·.isStable) = true := by decide +kernel
      exact isUnstable_ruledOutcome_of_own refers own _
  · exact (outcomeAt_of_not_opens opens).2

/-- Widgets vouch in order if only accounts stand before the counter. -/
theorem vouchesInOrder_ofWidgets {supertypes : List String}
    (known : ∀ name ∈ supertypes, (name = "Listener" ∨ name = "Account") ∨ name = "Counter")
    (first : ∀ before after, supertypes = before ++ "Counter" :: after →
      ∀ earlier ∈ before, earlier = "Account") (visit : Visit) :
    (ofWidgets supertypes {}).VouchesInOrder (.ofOptions .listenerVouched) visit := by
  intro declaration refers _ _ _ _ before supertype after split _ bad pass earlier member free
  rcases supertypes_ofWidgets refers with none | all
  · rw [none] at split
    simp at split
  · rw [all] at split
    obtain ⟨names, rest, listed, rfl, behind⟩ := List.map_eq_append_iff.mp split
    obtain ⟨name, others, rfl, rfl, rfl⟩ := List.map_eq_cons_iff.mp behind
    rcases known name (by simp [listed]) with quiet | rfl
    · have calm : ((ofWidgets supertypes .listenerVouched).outcomeBelow visit
          (.ofClass name)).isUnstable = false := by
        refine isUnstable_ofWidgets ?_
        rcases quiet with rfl | rfl
        · exact .inl rfl
        · exact .inr rfl
      exact absurd bad (Bool.eq_false_iff.mp calm)
    · -- The counter decides, and an account before it is judged without the policy.
      have good := pass earlier member free
      obtain ⟨other, there, rfl⟩ := List.mem_map.mp member
      obtain rfl := first names others listed other there
      have opens : (visit.below (.ofClass "Account")).Opens := by
        by_contra shut
        exact Bool.eq_false_iff.mp (outcomeAt_of_not_opens shut).1 good
      rw [outcomeBelow, outcomeAt_of_opens opens]
      rfl

/-- With a listener before an account a button is no worse off once the listener is vouched for, nor
is it with a counter between the two. -/
theorem button_is_no_worse :
    PolicyOptions.listenerVouched.AddsPatterns {} ∧
    (∃ verdict verdict',
      (ofWidgets ["Listener", "Account"] {}).freshVerdict (.ofClass "Button") = .ok verdict ∧
      (ofWidgets ["Listener", "Account"] .listenerVouched).freshVerdict (.ofClass "Button") =
        .ok verdict' ∧ verdict' ≤ verdict) ∧
    ∃ verdict verdict',
      (ofWidgets ["Account", "Counter", "Listener"] {}).freshVerdict (.ofClass "Button") =
        .ok verdict ∧
      (ofWidgets ["Account", "Counter", "Listener"] .listenerVouched).freshVerdict
        (.ofClass "Button") = .ok verdict' ∧ verdict' ≤ verdict := by
  refine ⟨PolicyOptions.listenerVouched_addsPatterns,
    vouching_never_worsens _ _ PolicyOptions.listenerVouched_addsPatterns _ _ rfl rfl _
      fun visit _ => vouchesInOrder_ofWidgets (by decide) ?_ visit,
    vouching_never_worsens _ _ PolicyOptions.listenerVouched_addsPatterns _ _ rfl rfl _
      fun visit _ => vouchesInOrder_ofWidgets (by decide) ?_ visit⟩
  · intro before after split
    have listed : "Counter" ∈ ["Listener", "Account"] := by simp [split]
    exact absurd listed (by decide)
  · intro before after split earlier member
    match before with
    | [] => cases member
    | [first] =>
      obtain rfl := (List.cons.inj split).1
      exact List.mem_singleton.mp member
    | first :: second :: third :: rest => simp at split
    | [first, second] => simp at split

/-- Where the listener comes first, it decides that the button is left to run time, and an earlier
finding that the panel is stable. Once the listener is vouched for, the counter decides. -/
theorem vouching_worsens_verdicts :
    PolicyOptions.listenerVouched.AddsPatterns {} ∧
    ((ofWidgets ["Listener", "Counter"] {}).freshVerdict (.ofClass "Button") = .ok .runtime ∧
      (ofWidgets ["Listener", "Counter"] .listenerVouched).freshVerdict (.ofClass "Button") =
        .ok .unstable) ∧
    ((ofWidgets ["Listener", "Counter"] {}).freshVerdict (.ofClass "Panel") = .ok .stable ∧
      (ofWidgets ["Listener", "Counter"] .listenerVouched).freshVerdict (.ofClass "Panel") =
        .ok .unstable) ∧
    ¬ Verdict.unstable ≤ .runtime ∧ ¬ Verdict.unstable ≤ .stable := by
  refine ⟨PolicyOptions.listenerVouched_addsPatterns, ⟨?_, ?_⟩, ⟨?_, ?_⟩, ?_, ?_⟩
  all_goals decide +kernel

end Judge

end StableTypes
