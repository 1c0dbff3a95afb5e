import StableTypes.Proofs.GuardedLeast
import StableTypes.Proofs.UncutOutcome

/-!
# Verdicts as least predicates

A type is entered under its own text, and below it types with that text are cut off. What is
stable in the end does not depend on the cut: being stable is a least predicate under a
guard, and among the types that are not stable so is being unstable. The rules look only at
what the aliases of a type are expanded to, so two types that are expanded to one come out
alike, even if they are entered under different texts. Two things have to be kept apart from
that: texts that stand for two types, and classes in a cycle that were found to be stable
before and come out unstable.
-/

namespace StableTypes.Judge

/-- The parts of the declaration that the type refers to lead back to that declaration. -/
def Recurs (judge : Judge) (type : TypeRef) : Prop :=
  ∃ declaration reached, judge.model.RefersTo type declaration ∧
    Relation.TransGen judge.HasPart type reached ∧ judge.model.RefersTo reached declaration

/-- Types that come up and have one signature are expanded to one type, up to nullability. -/
def TextsDecide (judge : Judge) (up : TypeRef → Prop) : Prop :=
  ∀ type other, up type → up other → type.signature = other.signature →
    ∀ expanded, judge.model.Reaches type expanded →
      ∃ expanded', judge.model.Reaches other expanded' ∧ expanded'.nonNull = expanded.nonNull

/-- From the visit on, no class in a cycle comes out unstable that was found to be stable before. -/
def InferenceHoldsInCycles (judge : Judge) (visit : Visit) : Prop :=
  ∀ later, judge.LeadsTo visit later → judge.Recurs later.type → judge.InferenceHolds later

/-- Where nothing is refused for want of room, more room makes no class come out unstable. -/
theorem InferenceHoldsInCycles.withMore {judge : Judge} {visit : Visit}
    (inference : judge.InferenceHoldsInCycles visit) (uncut : judge.Uncut visit) (extra : Nat) :
    judge.InferenceHoldsInCycles (visit.withMore extra) := by
  intro later leads again declaration refers own concrete found fixed
  obtain ⟨before, leads', rfl⟩ := uncut.of_leadsTo_withMore leads
  rw [(uncut.of_leadsTo leads').outcomeAt_withMore]
  exact inference before leads' again declaration refers own concrete found fixed

/-- What is asked of the types that come up. -/
structure Coherent (judge : Judge) (up : TypeRef → Prop) : Prop where
  /-- The parts of a type that comes up come up. -/
  parts : ∀ type part, up type → judge.HasPart type part → up part
  /-- Only finitely many signatures come up. -/
  finite : (TypeRef.signature '' {type | up type}).Finite
  /-- A signature stands for one type. -/
  texts : judge.TextsDecide up

/-- The outcome of a type with the signatures in `active` entered, where `bound` fit in all. -/
def outcomeUnder (judge : Judge) (bound : Nat) (active : List String) (type : TypeRef) :
    Classification :=
  judge.outcomeWithin (bound - active.length) active type

/-- The type is visited from the start, and the signatures in `active` are those of types above it,
each once. -/
structure Under (judge : Judge) (up : TypeRef → Prop) (bound : Nat) (start : TypeRef)
    (active : List String) (type : TypeRef) : Prop where
  /-- The type is visited. -/
  visited : judge.LeadsTo (.start bound start) ⟨bound - active.length, active, type⟩
  /-- The type comes up. -/
  comes : up type
  /-- No signature is entered twice. -/
  distinct : active.Nodup
  /-- Each signature is that of a type that leads to the one at hand. -/
  above : ∀ signature ∈ active, ∃ before, up before ∧
    (∃ expanded, judge.model.Reaches before expanded) ∧
    Relation.TransGen judge.HasPart before type ∧ before.signature = signature

section

variable {judge : Judge} {up : TypeRef → Prop} {bound : Nat} {active : List String}
  {start type other part : TypeRef}

/-- A type that comes up is at hand with nothing entered. -/
theorem Under.atStart (judge : Judge) (bound : Nat) (comes : up type) :
    judge.Under up bound type [] type :=
  ⟨.refl, comes, List.nodup_nil, by simp⟩

/-- A type whose signature is new leaves some signature out that comes up. -/
theorem Under.length_lt (coherent : judge.Coherent up)
    (under : judge.Under up bound start active type)
    (fresh : type.signature ∉ active) :
    active.length < (TypeRef.signature '' {type | up type}).ncard := by
  refine length_lt_ncard_of_notMem under.distinct (fun signature there => ?_) coherent.finite
    ⟨type, under.comes, rfl⟩ fresh
  obtain ⟨before, comes, -, -, same⟩ := under.above signature there
  exact ⟨before, comes, same⟩

/-- A type that is entered is above the parts that it asks about. -/
theorem Under.cons (coherent : judge.Coherent up)
    (roomy : (TypeRef.signature '' {type | up type}).ncard ≤ bound)
    (under : judge.Under up bound start active type) (fresh : type.signature ∉ active)
    (reaches : ∃ expanded, judge.model.Reaches type expanded)
    (there : part ∈ judge.asked (judge.outcomeUnder bound (type.signature :: active)) type) :
    judge.Under up bound start (type.signature :: active) part where
  visited := by
    have short := under.length_lt coherent fresh
    have opens : Visit.Opens ⟨bound - active.length, active, type⟩ :=
      ⟨fresh, by change 0 < bound - active.length; omega⟩
    exact under.visited.tail (.part opens there)
  comes := coherent.parts type part under.comes (hasPart_of_mem_asked there)
  distinct := List.nodup_cons.mpr ⟨fresh, under.distinct⟩
  above := by
    intro signature entered
    rcases List.mem_cons.mp entered with rfl | entered
    · exact ⟨type, under.comes, reaches, .single (hasPart_of_mem_asked there), rfl⟩
    · obtain ⟨before, comes, reaches, leads, same⟩ := under.above signature entered
      exact ⟨before, comes, reaches, leads.tail (hasPart_of_mem_asked there), same⟩

/-- A type whose signature is entered is neither stable nor unstable. -/
theorem outcomeUnder_of_mem (there : type.signature ∈ active) :
    (judge.outcomeUnder bound active type).isStable = false ∧
      (judge.outcomeUnder bound active type).isUnstable = false := by
  rw [outcomeUnder, outcomeWithin_of_mem there]
  exact ⟨rfl, rfl⟩

/-- A type whose signature is new is judged by its parts with that signature entered. -/
theorem outcomeUnder_of_notMem (coherent : judge.Coherent up)
    (roomy : (TypeRef.signature '' {type | up type}).ncard ≤ bound)
    (under : judge.Under up bound start active type) (fresh : type.signature ∉ active) :
    judge.outcomeUnder bound active type =
      judge.ruledOutcome (judge.outcomeUnder bound (type.signature :: active)) type := by
  have short := under.length_lt coherent fresh
  have less : bound - active.length = bound - (type.signature :: active).length + 1 := by
    simp only [List.length_cons]
    omega
  unfold outcomeUnder
  rw [less, outcomeWithin_succ fresh]
  rfl

/-- Types with one signature that come up have one verdict. -/
theorem Coherent.verdict_eq (coherent : judge.Coherent up) (comes : up type) (comes' : up other)
    (same : type.signature = other.signature) (outcome : TypeRef → Classification) :
    (judge.ruledOutcome outcome type).verdict = (judge.ruledOutcome outcome other).verdict := by
  by_cases reaches : ∃ expanded, judge.model.Reaches type expanded
  · obtain ⟨expanded, reaches⟩ := reaches
    obtain ⟨expanded', reaches', alike⟩ :=
      coherent.texts type other comes comes' same expanded reaches
    exact (ruledOutcome_verdict reaches reaches' alike outcome).symm
  · have stuck : ¬ ∃ expanded, judge.model.Reaches other expanded := by
      rintro ⟨expanded', reaches'⟩
      obtain ⟨expanded, reached, -⟩ :=
        coherent.texts other type comes' comes same.symm expanded' reaches'
      exact reaches ⟨expanded, reached⟩
    obtain ⟨stable, unstable⟩ := ruledOutcome_undecided reaches outcome
    obtain ⟨stable', unstable'⟩ := ruledOutcome_undecided stuck outcome
    rw [Classification.verdict, Classification.verdict, stable, unstable, stable', unstable']

/-- What the parts of a type that comes up lead to comes up. -/
theorem Coherent.up_of_leads (coherent : judge.Coherent up) (comes : up type)
    (leads : Relation.ReflTransGen judge.HasPart type other) : up other := by
  induction leads with
  | refl => exact comes
  | tail _ member ih => exact coherent.parts _ _ ih member

/-- Types with one signature that come up refer to one declaration. -/
theorem Coherent.refersTo_iff (coherent : judge.Coherent up) (comes : up type)
    (comes' : up other) (same : type.signature = other.signature)
    (reaches : ∃ expanded, judge.model.Reaches type expanded) {declaration : Declaration} :
    judge.model.RefersTo other declaration ↔ judge.model.RefersTo type declaration := by
  obtain ⟨expanded, reaches⟩ := reaches
  obtain ⟨expanded', reaches', alike⟩ :=
    coherent.texts type other comes comes' same expanded reaches
  exact refersTo_iff_of_reaches reaches reaches' alike

/-- A type below the parts of a type that does not recur has none of the signatures above. -/
theorem Under.notMem_of_not_recurs (coherent : judge.Coherent up)
    (under : judge.Under up bound start active type)
    (reaches : ∃ expanded, judge.model.Reaches type expanded)
    (once : ¬ judge.Recurs type) {below : TypeRef}
    (leads : Relation.TransGen judge.HasPart type below) :
    below.signature ∉ type.signature :: active := by
  intro there
  refine once ?_
  have comes : up below := coherent.up_of_leads under.comes leads.to_reflTransGen
  obtain ⟨_, ⟨declaration, refers, _⟩, _⟩ := Relation.TransGen.head'_iff.mp leads
  rcases List.mem_cons.mp there with same | there
  · have refers' := (coherent.refersTo_iff under.comes comes same.symm reaches).mpr refers
    exact ⟨declaration, below, refers, leads, refers'⟩
  · -- The type above with that signature has the same parts, so the path leads back.
    obtain ⟨before, comes', reaches', leads', same⟩ := under.above _ there
    obtain ⟨next, ⟨declaration', refers', member⟩, rest⟩ := Relation.TransGen.head'_iff.mp leads'
    have first : judge.HasPart below next :=
      ⟨declaration', (coherent.refersTo_iff comes' comes same reaches').mpr refers', member⟩
    exact ⟨declaration, type, refers, leads.trans (.head' first rest), refers⟩

/-- The parts of a type that does not recur have the outcomes that they have with nothing
entered. -/
theorem Under.outcomeUnder_of_not_recurs (coherent : judge.Coherent up)
    (roomy : 2 * (TypeRef.signature '' {type | up type}).ncard ≤ bound)
    (under : judge.Under up bound start active type) (fresh : type.signature ∉ active)
    (reaches : ∃ expanded, judge.model.Reaches type expanded)
    (once : ¬ judge.Recurs type) (member : judge.HasPart type part) :
    judge.outcomeUnder bound (type.signature :: active) part =
      judge.outcomeUnder bound [] part := by
  have short := under.length_lt coherent fresh
  have inside : TypeRef.signature '' {below | Relation.ReflTransGen judge.HasPart part below} ⊆
      TypeRef.signature '' {type | up type} := by
    rintro _ ⟨below, leads, rfl⟩
    exact ⟨below, coherent.up_of_leads (coherent.parts _ _ under.comes member) leads, rfl⟩
  have fewer := Set.ncard_le_ncard inside coherent.finite
  refine outcomeWithin_eq_of_apart (fun _ _ => rfl) (coherent.finite.subset inside)
    (fun below leads => ⟨below, leads, rfl⟩) (fun _ _ leads next => leads.tail next) ?_ (by simp)
    [] List.nodup_nil (by simp) ?_ ?_ .refl
  · rintro _ ⟨below, leads, rfl⟩
    exact under.notMem_of_not_recurs coherent reaches once (.head' member leads)
  · simp only [List.length_cons, List.length_nil]
    omega
  · simp only [List.length_nil]
    omega

/-- A type recurs if one recurs whose aliases are expanded to the same type. -/
theorem Recurs.of_reaches {expanded expanded' : TypeRef}
    (reaches : judge.model.Reaches type expanded) (reaches' : judge.model.Reaches other expanded')
    (same : expanded'.nonNull = expanded.nonNull) (recurs : judge.Recurs other) :
    judge.Recurs type := by
  have refers : ∀ {declaration}, judge.model.RefersTo other declaration ↔
      judge.model.RefersTo type declaration := refersTo_iff_of_reaches reaches reaches' same
  obtain ⟨declaration, reached, own, leads, back⟩ := recurs
  obtain ⟨next, ⟨declaration', found, member⟩, rest⟩ := Relation.TransGen.head'_iff.mp leads
  have first : judge.HasPart type next := ⟨declaration', refers.mp found, member⟩
  exact ⟨declaration, reached, refers.mp own, .head' first rest, back⟩

open Classical in
/-- The outcome of a part that is taken to be stable, unstable, or neither. -/
noncomputable def assumed (stable unstable : TypeRef → Prop) (part : TypeRef) : Classification :=
  if stable part then .stable "" else if unstable part then .unstable "" else .runtime "" ""

theorem isStable_assumed_iff {stable unstable : TypeRef → Prop} :
    (assumed stable unstable part).isStable = true ↔ stable part := by
  unfold assumed
  by_cases good : stable part
  · simp [good, Classification.isStable]
  · by_cases bad : unstable part <;> simp [good, bad, Classification.isStable]

theorem isUnstable_assumed_iff {stable unstable : TypeRef → Prop} :
    (assumed stable unstable part).isUnstable = true ↔ ¬ stable part ∧ unstable part := by
  unfold assumed
  by_cases good : stable part
  · simp [good, Classification.isUnstable]
  · by_cases bad : unstable part <;> simp [good, bad, Classification.isUnstable]

/-- Where no part is taken to be unstable, a class that its names and annotations do not decide and
whose properties are fixed is not unstable. -/
theorem isUnstable_ruledOutcome_assumed {stable : TypeRef → Prop} {declaration : Declaration}
    (refers : judge.model.RefersTo type declaration)
    (own : judge.ownOutcome? declaration = none) (fixed : declaration.NoneMutable) :
    (judge.ruledOutcome (assumed stable fun _ => False) type).isUnstable = false := by
  rcases ruledOutcome_fixed_or_ruled judge type with
    ⟨result, calm, rule⟩ | ⟨declaration', refers', known, rule⟩
  · rw [rule]
    exact calm
  · obtain rfl := refers'.unique refers
    rw [rule, Bool.eq_false_iff]
    intro unstable
    rcases isUnstable_ruledBy (ruledBy_classRules known) unstable with
      ⟨result, decided, -⟩ | assigned | ⟨part, -, bad⟩
    · rw [own] at decided
      cases decided
    · exact assigned fixed
    · exact (isUnstable_assumed_iff.mp bad).2

open Classical in
/-- What the parts of a type are taken to be where some types are known to be stable. In a cycle
that is all that is known; elsewhere the parts have outcomes of their own. -/
noncomputable def stableBasis (judge : Judge) (bound : Nat) (stable : TypeRef → Prop)
    (type : TypeRef) : TypeRef → Classification :=
  if judge.Recurs type then assumed stable fun _ => False else judge.outcomeUnder bound []

/-- The rules make a type that comes up stable, from the types that are known to be. -/
def StableStep (judge : Judge) (up : TypeRef → Prop) (bound : Nat) (stable : TypeRef → Prop)
    (type : TypeRef) : Prop :=
  up type ∧ (judge.ruledOutcome (judge.stableBasis bound stable type) type).isStable = true

/-- Only what the aliases of a type are expanded to matters to whether it becomes stable. -/
theorem StableStep.of_reaches {stable : TypeRef → Prop} {expanded expanded' : TypeRef}
    (comes : up type) (reaches : judge.model.Reaches type expanded)
    (reaches' : judge.model.Reaches other expanded')
    (same : expanded'.nonNull = expanded.nonNull) (h : judge.StableStep up bound stable other) :
    judge.StableStep up bound stable type := by
  refine ⟨comes, ?_⟩
  have basis : judge.stableBasis bound stable other = judge.stableBasis bound stable type := by
    unfold stableBasis
    by_cases again : judge.Recurs type
    · rw [if_pos again, if_pos (again.of_reaches reaches' reaches same.symm)]
    · rw [if_neg again, if_neg fun back => again (back.of_reaches reaches reaches' same)]
  rw [← Classification.verdict_eq_stable_iff, ← ruledOutcome_verdict reaches reaches' same,
    ← basis, Classification.verdict_eq_stable_iff]
  exact h.2

/-- More stable types make more types stable, and types with one signature alike. -/
theorem guardedStep_stableStep (coherent : judge.Coherent up) (bound : Nat) :
    GuardedStep (judge.StableStep up bound) up where
  mono := by
    rintro stable stable' more type ⟨comes, h⟩
    refine ⟨comes, ?_⟩
    unfold stableBasis at h ⊢
    split_ifs at h ⊢ with again
    · exact isStable_ruledOutcome_carries
        (fun part _ good => isStable_assumed_iff.mpr (more part (isStable_assumed_iff.mp good)))
        (fun _ refers own _ _ fixed => isUnstable_ruledOutcome_assumed refers own fixed) h
    · exact h
  alike := by
    intro stable type other comes same h
    by_cases reaches : ∃ expanded, judge.model.Reaches other expanded
    · obtain ⟨expanded', reaches'⟩ := reaches
      obtain ⟨expanded, reaches, alike⟩ :=
        coherent.texts other type h.1 comes same.symm expanded' reaches'
      exact h.of_reaches comes reaches reaches' alike.symm
    · have undecided := (ruledOutcome_undecided reaches (judge.stableBasis bound stable other)).1
      rw [h.2] at undecided
      cases undecided

/-- The stable outcomes are the least predicate that the rules lead to, with the signatures that
are entered blocked. -/
theorem isStable_outcomeUnder_iff (coherent : judge.Coherent up)
    (roomy : 2 * (TypeRef.signature '' {type | up type}).ncard ≤ bound)
    (inference : judge.InferenceHoldsInCycles (.start bound start))
    (under : judge.Under up bound start active type) :
    (judge.outcomeUnder bound active type).isStable = true ↔
      LeastOutside (judge.StableStep up bound) active type := by
  refine LeastOutside.iff_of_recursion (guardedStep_stableStep coherent bound)
    (judge.Under up bound start)
    (fun active type => (judge.outcomeUnder bound active type).isStable = true)
    (fun active type under => under.comes)
    (fun active type under fresh => under.length_lt coherent fresh)
    (fun active type there => ?_) ?_ under
  · rw [(outcomeUnder_of_mem there).1]
    exact Bool.false_ne_true
  intro active type under fresh stable agrees
  rw [outcomeUnder_of_notMem coherent (by omega) under fresh, StableStep, and_iff_right under.comes]
  by_cases reaches : ∃ expanded, judge.model.Reaches type expanded
  · unfold stableBasis
    split_ifs with again
    · -- The rules cannot tell what they do not ask about from what is assumed of it.
      rw [← judge.ruledOutcome_onAsked type _ (assumed stable fun _ => False)]
      have alike : ∀ part, (judge.onAsked type (judge.outcomeUnder bound (type.signature :: active))
          (assumed stable fun _ => False) part).isStable = true ↔ stable part :=
        onAsked_induction (motive := fun part outcome => outcome.isStable = true ↔ stable part)
          (fun part there => agrees part (under.cons coherent (by omega) fresh reaches there))
          (fun _ => isStable_assumed_iff)
      constructor
      · refine isStable_ruledOutcome_carries (fun part _ good => ?_)
          (fun _ refers own _ _ fixed => isUnstable_ruledOutcome_assumed refers own fixed)
        exact isStable_assumed_iff.mpr ((alike part).mp good)
      · refine isStable_ruledOutcome_carries (fun part _ good => ?_)
          (fun declaration refers own concrete found fixed => ?_)
        · exact (alike part).mpr (isStable_assumed_iff.mp good)
        · rw [ruledOutcome_onAsked, ← outcomeUnder_of_notMem coherent (by omega) under fresh]
          exact inference _ under.visited again declaration refers own concrete found fixed
    · rw [ruledOutcome_congr fun part member =>
        under.outcomeUnder_of_not_recurs coherent roomy fresh reaches again member]
  · rw [(ruledOutcome_undecided reaches _).1, (ruledOutcome_undecided reaches _).1]

/-- The type is stable with nothing entered. -/
def ComesOutStable (judge : Judge) (up : TypeRef → Prop) (bound : Nat) : TypeRef → Prop :=
  LeastOutside (judge.StableStep up bound) []

/-- The rules make a type that comes up unstable, from the types that are known to be, where it is
settled which types are stable. -/
def UnstableStep (judge : Judge) (up stable unstable : TypeRef → Prop) (type : TypeRef) : Prop :=
  up type ∧ ¬ stable type ∧
    (judge.ruledOutcome (assumed stable unstable) type).isUnstable = true

/-- Only what the aliases of a type are expanded to matters to whether it becomes unstable, if it
is not stable. -/
theorem UnstableStep.of_reaches {stable unstable : TypeRef → Prop} {expanded expanded' : TypeRef}
    (comes : up type) (unsettled : ¬ stable type) (reaches : judge.model.Reaches type expanded)
    (reaches' : judge.model.Reaches other expanded')
    (same : expanded'.nonNull = expanded.nonNull)
    (h : judge.UnstableStep up stable unstable other) :
    judge.UnstableStep up stable unstable type := by
  refine ⟨comes, unsettled, ?_⟩
  rw [← Classification.verdict_eq_unstable_iff, ← ruledOutcome_verdict reaches reaches' same,
    Classification.verdict_eq_unstable_iff]
  exact h.2.2

/-- More unstable types make more types unstable, and types with one signature alike, where types
with one signature are stable both or not at all. -/
theorem guardedStep_unstableStep (coherent : judge.Coherent up) {stable : TypeRef → Prop}
    (alike : ∀ {type other}, up type → type.signature = other.signature → stable other →
      stable type) : GuardedStep (judge.UnstableStep up stable) up where
  mono := by
    rintro unstable unstable' more type ⟨comes, unsettled, h⟩
    refine ⟨comes, unsettled, ?_⟩
    refine isUnstable_ruledOutcome_mono (fun part _ => ?_) (fun part _ => ?_) h
    · rw [isStable_assumed_iff, isStable_assumed_iff]
    · rw [isUnstable_assumed_iff, isUnstable_assumed_iff]
      exact And.imp_right (more part)
  alike := by
    rintro unstable type other comes same ⟨comes', unsettled, h⟩
    refine ⟨comes, fun settled => unsettled (alike comes' same.symm settled), ?_⟩
    rwa [← Classification.verdict_eq_unstable_iff, coherent.verdict_eq comes comes' same,
      Classification.verdict_eq_unstable_iff]

/-- Neither the type at hand nor one with a signature above it is stable. -/
structure UnderUnsettled (judge : Judge) (up : TypeRef → Prop) (bound : Nat) (start : TypeRef)
    (active : List String) (type : TypeRef) : Prop
    extends Judge.Under judge up bound start active type where
  /-- The type is not stable. -/
  unsettled : ¬ judge.ComesOutStable up bound type
  /-- No stable type has a signature above. -/
  apart : ∀ other, judge.ComesOutStable up bound other → other.signature ∉ active

section

variable (coherent : judge.Coherent up)
  (roomy : 2 * (TypeRef.signature '' {type | up type}).ncard ≤ bound)
  (inference : judge.InferenceHoldsInCycles (.start bound start))
include coherent roomy inference

/-- Below types that are not stable it makes no difference to what is stable what is entered. -/
theorem UnderUnsettled.isStable_part_iff (under : judge.UnderUnsettled up bound start active type)
    (fresh : type.signature ∉ active) (reaches : ∃ expanded, judge.model.Reaches type expanded)
    (there : part ∈ judge.asked (judge.outcomeUnder bound (type.signature :: active)) type) :
    ((judge.outcomeUnder bound (type.signature :: active) part).isStable = true ↔
      judge.ComesOutStable up bound part) ∧
    ∀ other, judge.ComesOutStable up bound other → other.signature ∉ type.signature :: active := by
  have guarded := guardedStep_stableStep coherent bound
  have apart : ∀ other, judge.ComesOutStable up bound other →
      other.signature ∉ type.signature :: active := by
    intro other stable there
    rcases List.mem_cons.mp there with same | there
    · exact under.unsettled (stable.of_signature_eq guarded under.comes same.symm)
    · exact under.apart other stable there
  refine ⟨?_, apart⟩
  rw [isStable_outcomeUnder_iff coherent roomy inference
    (under.cons coherent (by omega) fresh reaches there)]
  exact LeastOutside.iff_of_apart apart

/-- Among the types that are not stable, the unstable outcomes are the least predicate that the
rules lead to, with the signatures that are entered blocked. -/
theorem isUnstable_outcomeUnder_iff (under : judge.UnderUnsettled up bound start active type) :
    (judge.outcomeUnder bound active type).isUnstable = true ↔
      LeastOutside (judge.UnstableStep up (judge.ComesOutStable up bound)) active type := by
  have guarded := guardedStep_stableStep coherent bound
  refine LeastOutside.iff_of_recursion
    (guardedStep_unstableStep coherent fun comes same h => h.of_signature_eq guarded comes same)
    (judge.UnderUnsettled up bound start)
    (fun active type => (judge.outcomeUnder bound active type).isUnstable = true)
    (fun active type under => under.comes)
    (fun active type under fresh => under.toUnder.length_lt coherent fresh)
    (fun active type there => ?_) ?_ under
  · rw [(outcomeUnder_of_mem there).2]
    exact Bool.false_ne_true
  intro active type under fresh unstable agrees
  rw [outcomeUnder_of_notMem coherent (by omega) under.toUnder fresh, UnstableStep,
    and_iff_right under.comes, and_iff_right under.unsettled]
  by_cases reaches : ∃ expanded, judge.model.Reaches type expanded
  · let truth := assumed (judge.ComesOutStable up bound) unstable
    rw [← judge.ruledOutcome_onAsked type _ truth]
    have stable : ∀ part, (judge.onAsked type (judge.outcomeUnder bound (type.signature :: active))
        truth part).isStable = true ↔ (truth part).isStable = true :=
      onAsked_induction (motive := fun part outcome =>
          outcome.isStable = true ↔ (truth part).isStable = true)
        (fun part there => by
          rw [isStable_assumed_iff]
          exact (under.isStable_part_iff coherent roomy inference fresh reaches there).1)
        (fun _ => Iff.rfl)
    have bad : ∀ part, (judge.onAsked type (judge.outcomeUnder bound (type.signature :: active))
        truth part).isUnstable = true ↔ (truth part).isUnstable = true := by
      refine onAsked_induction (motive := fun part outcome =>
        outcome.isUnstable = true ↔ (truth part).isUnstable = true) (fun part there => ?_)
        (fun _ => Iff.rfl)
      obtain ⟨good, apart⟩ := under.isStable_part_iff coherent roomy inference fresh reaches there
      rw [isUnstable_assumed_iff]
      by_cases settled : judge.ComesOutStable up bound part
      · rw [Classification.isUnstable_of_isStable (good.mpr settled)]
        simp [settled]
      · rw [and_iff_right settled]
        exact agrees part
          ⟨under.cons coherent (by omega) fresh reaches there, settled, apart⟩
    constructor
    · exact isUnstable_ruledOutcome_mono (fun part _ => stable part) fun part _ => (bad part).mp
    · exact isUnstable_ruledOutcome_mono (fun part _ => (stable part).symm)
        fun part _ => (bad part).mpr
  · rw [(ruledOutcome_undecided reaches _).2, (ruledOutcome_undecided reaches _).2]

end

/-- Types whose aliases are expanded to one type come out alike. -/
theorem verdict_outcomeUnder_of_reaches (coherent : judge.Coherent up)
    (roomy : 2 * (TypeRef.signature '' {type | up type}).ncard ≤ bound)
    (comes : up type) (comes' : up other)
    (inference : judge.InferenceHoldsInCycles (.start bound type))
    (inference' : judge.InferenceHoldsInCycles (.start bound other))
    {expanded expanded' : TypeRef}
    (reaches : judge.model.Reaches type expanded) (reaches' : judge.model.Reaches other expanded')
    (same : expanded'.nonNull = expanded.nonNull) :
    (judge.outcomeUnder bound [] type).verdict = (judge.outcomeUnder bound [] other).verdict := by
  have guarded := guardedStep_stableStep coherent bound
  have guarded' : GuardedStep (judge.UnstableStep up (judge.ComesOutStable up bound)) up :=
    guardedStep_unstableStep coherent fun comes same h => h.of_signature_eq guarded comes same
  have stable : judge.ComesOutStable up bound type ↔ judge.ComesOutStable up bound other :=
    ⟨fun h => .of_step ((h.step_self guarded).of_reaches comes' reaches' reaches same.symm),
      fun h => .of_step ((h.step_self guarded).of_reaches comes reaches reaches' same)⟩
  have settled := isStable_outcomeUnder_iff coherent roomy inference (.atStart judge bound comes)
  have settled' := isStable_outcomeUnder_iff coherent roomy inference'
    (.atStart judge bound comes')
  by_cases good : judge.ComesOutStable up bound type
  · rw [Classification.verdict_eq_stable_iff.mpr (settled.mpr good),
      Classification.verdict_eq_stable_iff.mpr (settled'.mpr (stable.mp good))]
  · have bad : ¬ judge.ComesOutStable up bound other := fun h => good (stable.mpr h)
    have unsettled := isUnstable_outcomeUnder_iff coherent roomy inference
      ⟨.atStart judge bound comes, good, fun _ _ => List.not_mem_nil⟩
    have unsettled' := isUnstable_outcomeUnder_iff coherent roomy inference'
      ⟨.atStart judge bound comes', bad, fun _ _ => List.not_mem_nil⟩
    have unstable : LeastOutside (judge.UnstableStep up (judge.ComesOutStable up bound)) [] type ↔
        LeastOutside (judge.UnstableStep up (judge.ComesOutStable up bound)) [] other :=
      ⟨fun h => .of_step ((h.step_self guarded').of_reaches comes' bad reaches' reaches same.symm),
        fun h => .of_step ((h.step_self guarded').of_reaches comes good reaches reaches' same)⟩
    have first : (judge.outcomeUnder bound [] type).isStable =
        (judge.outcomeUnder bound [] other).isStable :=
      Bool.eq_iff_iff.mpr (settled.trans (stable.trans settled'.symm))
    have second : (judge.outcomeUnder bound [] type).isUnstable =
        (judge.outcomeUnder bound [] other).isUnstable :=
      Bool.eq_iff_iff.mpr (unsettled.trans (unstable.trans unsettled'.symm))
    rw [Classification.verdict, Classification.verdict, first, second]

end

end StableTypes.Judge
