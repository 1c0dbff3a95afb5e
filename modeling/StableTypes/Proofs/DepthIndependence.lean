import StableTypes.Proofs.GuardedOutcome
import StableTypes.Proofs.SnapshotGraph

/-!
# Classification does not depend on the depth of the stack

Only finitely many signatures can come up while a type of a snapshot is classified,
and a signature is never on the stack twice, so the stack grows by at most that many.
With room for them, how much more fits and what else is entered make no difference.
The two runs are compared along the path of signatures entered since the start, which
is the same in both; the invariant is that the path has no repetition and stays within
the finite set.
-/

namespace StableTypes

namespace Policy

/-- Two policies leave out and vouch for the same names. -/
structure SamePatterns (policy policy' : Policy) : Prop where
  /-- The same names are left out. -/
  ignored : ∀ name, policy.isIgnored name = policy'.isIgnored name
  /-- The same names are vouched for. -/
  customStable : ∀ name, policy.isCustomStable name = policy'.isCustomStable name

end Policy

namespace Judge

/-- The outcome of a type depends on the policy only through its patterns. -/
theorem typeOutcome_samePatterns {m : Type → Type} [Monad m] [MonadExceptOf Fault m]
    {model : TypeModel} {catalog : Catalog} {policy policy' : Policy}
    (same : policy.SamePatterns policy') (classify : TypeRef → m Classification) (type : TypeRef) :
    typeOutcome ⟨model, catalog, policy⟩ classify type =
      typeOutcome ⟨model, catalog, policy'⟩ classify type := by
  have own : ∀ declaration, ownOutcome? ⟨model, catalog, policy⟩ declaration =
      ownOutcome? ⟨model, catalog, policy'⟩ declaration := by
    intro declaration
    simp only [ownOutcome?, same.ignored, same.customStable]
  have rules : ∀ declaration, classRules ⟨model, catalog, policy⟩ classify declaration =
      classRules ⟨model, catalog, policy'⟩ classify declaration := by
    intro declaration
    simp only [classRules, own]
    rfl
  simp only [typeOutcome, declarationOutcome, analyzeClass, rules]

end Judge

/-- Equality is respected by every rule. -/
def Judge.equality : FaultRelation (Except Fault) (Except Fault) where
  toStepRelation := .equality
  throw _ _ _ := rfl

/-- A guard with the signatures of `path` entered on top of `base`, no two of them the same
and all of them from `reach`. -/
structure SignatureGuard.OnTop (base : SignatureGuard) (reach : Set String) (path : List String)
    (guard : SignatureGuard) : Prop where
  /-- As many signatures fit as before. -/
  capacity : guard.capacity = base.capacity
  /-- The path is on top of the stack. -/
  stack : guard.stack = path ++ base.stack
  /-- The path is in the set. -/
  active : guard.active = path ++ base.active
  /-- The path has no repetition. -/
  distinct : path.Nodup
  /-- The path stays within what can come up. -/
  within : ∀ signature ∈ path, signature ∈ reach

namespace SignatureGuard.OnTop

variable {base guard : SignatureGuard} {reach : Set String} {path : List String}
  {signature : String}

/-- The path is as long as the stack has grown. -/
theorem depth_eq (onTop : OnTop base reach path guard) :
    guard.depth = base.depth + path.length := by
  rw [depth, onTop.stack, List.length_append, Nat.add_comm]
  rfl

/-- A new signature that can come up makes the path longer. -/
theorem push (onTop : OnTop base reach path guard) (fresh : signature ∉ guard.active)
    (reached : signature ∈ reach) :
    OnTop base reach (signature :: path) (guard.push signature) where
  capacity := onTop.capacity
  stack := by rw [push_stack, onTop.stack, List.cons_append]
  active := by rw [push_active, onTop.active, List.cons_append]
  distinct := by
    rw [onTop.active] at fresh
    exact List.nodup_cons.mpr ⟨fun member => fresh (List.mem_append_left _ member), onTop.distinct⟩
  within := by simpa using ⟨reached, onTop.within⟩

/-- The path is not longer than the number of signatures that can come up. -/
theorem length_le (onTop : OnTop base reach path guard) (finite : reach.Finite) :
    path.length ≤ reach.ncard :=
  length_le_ncard_of_nodup onTop.distinct onTop.within finite

/-- The path is shorter than that number where a new signature comes up. -/
theorem length_lt {snapshot : Snapshot} {type : TypeRef}
    (onTop : OnTop base (snapshot.signaturesFrom type) path guard)
    (comes : signature ∈ snapshot.signaturesFrom type) (fresh : signature ∉ guard.active) :
    path.length < (snapshot.signaturesFrom type).ncard := by
  rw [onTop.active] at fresh
  exact Snapshot.length_lt_ncard onTop.distinct onTop.within comes
    fun member => fresh (List.mem_append_left _ member)

end SignatureGuard.OnTop

/-- The step refuses nothing for want of room, leaves nothing out of order, and leaves at
most `bound` signatures entered. -/
def GuardEvent.Within (bound : Nat) : GuardEvent → Prop
  | .enter _ entry depth => entry ≠ .tooDeep ∧ depth ≤ bound
  | .exit _ depth => depth ≤ bound
  | .disorder _ => False

namespace Judge

variable {snapshot : Snapshot} {catalog : Catalog} {policy policy' : Policy} {type : TypeRef}

/-- The types that come up while a type of a snapshot is classified from `base` are reached
from it, with a path of signatures that can come up on top of what was entered. -/
def Visits (snapshot : Snapshot) (type : TypeRef) (base guard : SignatureGuard)
    (reached : TypeRef) : Prop :=
  (∃ path, base.OnTop (snapshot.signaturesFrom type) path guard) ∧
    Relation.ReflTransGen (ProgramModel.ofSnapshot snapshot).typeModel.HasMember type reached

/-- With room for all signatures that can come up, no step goes beyond their number. -/
theorem stepInvariant_visits {base : SignatureGuard}
    (roomy : base.depth + (snapshot.signaturesFrom type).ncard ≤ base.capacity) :
    (ofSnapshot snapshot catalog policy).StepInvariant
      (GuardEvent.Within (base.depth + (snapshot.signaturesFrom type).ncard))
      (Visits snapshot type base) := by
  have finite := snapshot.finite_signaturesFrom type
  constructor
  case parts =>
    rintro inner reached part ⟨⟨path, onTop⟩, leads⟩ fresh member
    exact ⟨⟨_, onTop.push fresh (Snapshot.signature_mem_signaturesFrom leads)⟩,
      leads.tail (Snapshot.hasMember_of_hasPart member)⟩
  case cycle =>
    rintro inner reached ⟨⟨path, onTop⟩, -⟩ there
    have short := onTop.length_le finite
    have deep := onTop.depth_eq
    exact ⟨nofun, by omega⟩
  case tooDeep =>
    rintro inner reached ⟨⟨path, onTop⟩, leads⟩ fresh full
    have short := onTop.length_lt (Snapshot.signature_mem_signaturesFrom leads) fresh
    have deep := onTop.depth_eq
    have capacity := onTop.capacity
    have roomless : ¬ (inner.depth : Int) < inner.capacity := fun roomy' =>
      absurd (SignatureGuard.room_pos_iff.mpr roomy') (by omega)
    omega
  case entered =>
    rintro inner reached ⟨⟨path, onTop⟩, leads⟩ fresh
    have short := onTop.length_lt (Snapshot.signature_mem_signaturesFrom leads) fresh
    have deep := onTop.depth_eq
    exact ⟨nofun, by omega⟩
  case left =>
    rintro inner reached ⟨⟨path, onTop⟩, -⟩ fresh
    have short := onTop.length_le finite
    have deep := onTop.depth_eq
    change _ ≤ _
    omega

/-- With room for all signatures that can come up, the guard never grows by more than their
number and never refuses a signature for want of room. -/
theorem record_within {guard : SignatureGuard}
    (roomy : guard.depth + (snapshot.signaturesFrom type).ncard ≤ guard.capacity) :
    ∀ event ∈ ((ofSnapshot snapshot catalog policy).record type guard).2.2,
      event.Within (guard.depth + (snapshot.signaturesFrom type).ncard) := by
  have start : Visits snapshot type guard guard type :=
    ⟨⟨[], rfl, rfl, rfl, List.nodup_nil, by simp⟩, .refl⟩
  obtain ⟨steps, run, fine⟩ := record_eq (stepInvariant_visits roomy) start
  rw [run]
  exact fine

/-- Where the signatures of the types that come up are finitely many, and there is room for all
of them, an outcome depends only on the path entered since the start: how much more fits and what
was entered before make no difference, as long as none of it comes up. -/
theorem outcomeWithin_eq_of_apart {judge judge' : Judge}
    (same : ∀ classify type, judge.typeOutcome (m := Except Fault) classify type =
      judge'.typeOutcome classify type)
    {up : TypeRef → Prop} {reach : Set String} (finite : reach.Finite)
    (signed : ∀ type, up type → type.signature ∈ reach)
    (parts : ∀ type part, up type → judge'.HasPart type part → up part)
    {active active' : List String} (apart : ∀ signature ∈ reach, signature ∉ active)
    (apart' : ∀ signature ∈ reach, signature ∉ active')
    {room room' : Nat} (path : List String) (distinct : path.Nodup)
    (within : ∀ signature ∈ path, signature ∈ reach)
    (roomy : reach.ncard ≤ room + path.length) (roomy' : reach.ncard ≤ room' + path.length)
    {type : TypeRef} (comes : up type) :
    judge.outcomeWithin room (path ++ active) type =
      judge'.outcomeWithin room' (path ++ active') type := by
  induction room generalizing room' path type with
  | zero =>
    by_cases there : type.signature ∈ path
    · rw [outcomeWithin_of_mem (List.mem_append_left _ there),
        outcomeWithin_of_mem (List.mem_append_left _ there)]
    · have short := length_lt_ncard_of_notMem distinct within finite (signed type comes) there
      omega
  | succ room ih =>
    by_cases there : type.signature ∈ path
    · rw [outcomeWithin_of_mem (List.mem_append_left _ there),
        outcomeWithin_of_mem (List.mem_append_left _ there)]
    · have signature := signed type comes
      have short := length_lt_ncard_of_notMem distinct within finite signature there
      obtain ⟨room', rfl⟩ : ∃ less, room' = less + 1 := ⟨room' - 1, by omega⟩
      have fresh : type.signature ∉ path ++ active := by simp [there, apart _ signature]
      have fresh' : type.signature ∉ path ++ active' := by simp [there, apart' _ signature]
      have inside : ∀ part, judge'.HasPart type part →
          judge.outcomeWithin room (type.signature :: (path ++ active)) part =
            judge'.outcomeWithin room' (type.signature :: (path ++ active')) part := by
        intro part member
        exact ih (type.signature :: path) (List.nodup_cons.mpr ⟨there, distinct⟩)
          (by simpa using ⟨signature, within⟩) (by simp only [List.length_cons]; omega)
          (by simp only [List.length_cons]; omega) (parts type part comes member)
      rw [outcomeWithin_succ fresh, outcomeWithin_succ fresh', same]
      exact congrArg _ (rel_typeOutcome equality
        fun part member => congrArg Except.ok (inside part member))

/-- With room for all signatures that can come up, an outcome depends only on the path
entered since the start: how much more fits and what was entered before make no difference,
as long as none of it can come up. -/
theorem outcomeWithin_independent (type : TypeRef) (same : policy.SamePatterns policy')
    {active active' : List String}
    (apart : ∀ signature ∈ snapshot.signaturesFrom type, signature ∉ active)
    (apart' : ∀ signature ∈ snapshot.signaturesFrom type, signature ∉ active')
    {room room' : Nat} (path : List String) (distinct : path.Nodup)
    (within : ∀ signature ∈ path, signature ∈ snapshot.signaturesFrom type)
    (roomy : (snapshot.signaturesFrom type).ncard ≤ room + path.length)
    (roomy' : (snapshot.signaturesFrom type).ncard ≤ room' + path.length) {reached : TypeRef}
    (leads : Relation.ReflTransGen (ProgramModel.ofSnapshot snapshot).typeModel.HasMember
      type reached) :
    (ofSnapshot snapshot catalog policy).outcomeWithin room (path ++ active) reached =
      (ofSnapshot snapshot catalog policy').outcomeWithin room' (path ++ active') reached :=
  outcomeWithin_eq_of_apart (typeOutcome_samePatterns same) (snapshot.finite_signaturesFrom type)
    (fun _ => Snapshot.signature_mem_signaturesFrom)
    (fun _ _ path member => path.tail (Snapshot.hasMember_of_hasPart member))
    apart apart' path distinct within roomy roomy' leads

end Judge

open Judge in
/-- While a type of a snapshot is classified only finitely many signatures can come up. On any
two guards with room for all of them and none of them entered, and under any two policies
with the same patterns, the outcome is the same; and on neither does the guard grow by more
than their number or refuse a signature for want of room. -/
theorem classification_ignores_depth (snapshot : Snapshot) (catalog : Catalog)
    (policy policy' : Policy) (same : policy.SamePatterns policy') (type : TypeRef)
    (guard guard' : SignatureGuard) (reachable : guard.Reachable) (reachable' : guard'.Reachable)
    (apart : ∀ signature ∈ snapshot.signaturesFrom type, signature ∉ guard.stack)
    (apart' : ∀ signature ∈ snapshot.signaturesFrom type, signature ∉ guard'.stack)
    (roomy : guard.depth + (snapshot.signaturesFrom type).ncard ≤ guard.capacity)
    (roomy' : guard'.depth + (snapshot.signaturesFrom type).ncard ≤ guard'.capacity) :
    (snapshot.signaturesFrom type).Finite ∧
    (∃ outcome,
      ((ofSnapshot snapshot catalog policy).classify type).runOn guard = (.ok outcome, guard) ∧
      ((ofSnapshot snapshot catalog policy').classify type).runOn guard' = (.ok outcome, guard')) ∧
    (∀ event ∈ ((ofSnapshot snapshot catalog policy).record type guard).2.2,
      event.Within (guard.depth + (snapshot.signaturesFrom type).ncard)) ∧
    (∀ event ∈ ((ofSnapshot snapshot catalog policy').record type guard').2.2,
      event.Within (guard'.depth + (snapshot.signaturesFrom type).ncard)) := by
  have outcomes : (ofSnapshot snapshot catalog policy).outcomeOn guard type =
      (ofSnapshot snapshot catalog policy').outcomeOn guard' type := by
    have outside : ∀ signature ∈ snapshot.signaturesFrom type, signature ∉ guard.active := by
      intro signature comes there
      exact apart signature comes (reachable.sound.active_eq ▸ there)
    have outside' : ∀ signature ∈ snapshot.signaturesFrom type, signature ∉ guard'.active := by
      intro signature comes there
      exact apart' signature comes (reachable'.sound.active_eq ▸ there)
    -- Both runs start with nothing entered on the way, so the path is empty.
    refine outcomeWithin_independent type same outside outside' [] List.nodup_nil (by simp) ?_ ?_
      .refl
    · unfold SignatureGuard.room
      simp only [List.length_nil]
      omega
    · unfold SignatureGuard.room
      simp only [List.length_nil]
      omega
  refine ⟨snapshot.finite_signaturesFrom type, ⟨_, classify_runOn _ type guard, ?_⟩,
    record_within roomy, record_within roomy'⟩
  rw [outcomes]
  exact classify_runOn _ type guard'

open Judge in
/-- The class that refers to itself is classified alike with room for a single signature and
inside another type with more room. -/
theorem selfReferring_ignores_depth :
    ∃ outcome,
      ((ofSnapshot .selfReferring default (.ofOptions {})).classify (.ofClass "Node")).runOn
        (.fresh 1) = (.ok outcome, .fresh 1) ∧
      ((ofSnapshot .selfReferring default
        (.ofOptions { treatUnstableAsIdentityComparable := true })).classify
          (.ofClass "Node")).runOn ((SignatureGuard.fresh 9).enter "Other").2 =
        (.ok outcome, ((SignatureGuard.fresh 9).enter "Other").2) := by
  have single : (Snapshot.selfReferring.signaturesFrom (.ofClass "Node")).ncard ≤ 1 := by
    rw [← Set.ncard_singleton "Node"]
    exact Set.ncard_le_ncard Snapshot.signaturesFrom_selfReferring (Set.finite_singleton _)
  have apart : ∀ signature ∈ Snapshot.selfReferring.signaturesFrom (.ofClass "Node"),
      signature ∉ ["Other"] := by
    intro signature comes
    rw [Set.mem_singleton_iff.mp (Snapshot.signaturesFrom_selfReferring comes)]
    decide
  exact (classification_ignores_depth .selfReferring default (.ofOptions {})
    (.ofOptions { treatUnstableAsIdentityComparable := true }) ⟨fun _ => rfl, fun _ => rfl⟩
    (.ofClass "Node") (.fresh 1) ((SignatureGuard.fresh 9).enter "Other").2 (.fresh 1)
    (.enter "Other" (.fresh 9))
    (fun _ _ => List.not_mem_nil) apart
    (by change ((0 : Nat) : Int) + _ ≤ 1; omega) (by change ((1 : Nat) : Int) + _ ≤ 9; omega)).2.1

end StableTypes
