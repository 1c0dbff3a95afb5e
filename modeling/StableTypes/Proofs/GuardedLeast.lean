import StableTypes.TypeRef.Render

/-!
# Least predicates under a guard

A monotone step from predicates on types to predicates on types has a least predicate that
it leads to. A guarded recursion computes it: it applies the step to a type only while the
signature of the type is not blocked, and blocks it for the parts. Blocking loses nothing,
because a derivation that comes back to a signature can be cut short, as long as types with
one signature are treated alike by the step. Types that are left out anyway may be blocked
or not.
-/

namespace StableTypes

/-- The least predicate that the step leads to, types with a blocked signature left out. -/
inductive LeastOutside (step : (TypeRef → Prop) → TypeRef → Prop) (blocked : List String) :
    TypeRef → Prop
  /-- A type is in if the step leads to it from types that are in. -/
  | intro {type : TypeRef} {holds : TypeRef → Prop} : type.signature ∉ blocked →
      (∀ part, holds part → LeastOutside step blocked part) → step holds type →
      LeastOutside step blocked type

/-- A step that leads to more from more, and that treats the types that come up alike if they
have one signature. -/
structure GuardedStep (step : (TypeRef → Prop) → TypeRef → Prop) (up : TypeRef → Prop) : Prop where
  /-- More types lead to more types. -/
  mono : ∀ {holds holds' : TypeRef → Prop}, (∀ part, holds part → holds' part) →
    ∀ {type}, step holds type → step holds' type
  /-- The signature decides. -/
  alike : ∀ {holds : TypeRef → Prop} {type other}, up type → type.signature = other.signature →
    step holds other → step holds type

namespace LeastOutside

variable {step : (TypeRef → Prop) → TypeRef → Prop} {up : TypeRef → Prop}
  {blocked : List String} {type : TypeRef}

/-- A type that is in does not have a blocked signature. -/
theorem notMem (h : LeastOutside step blocked type) : type.signature ∉ blocked := by
  cases h with
  | intro fresh _ _ => exact fresh

/-- A type that is in is one that the step leads to. -/
theorem step_self (guarded : GuardedStep step up) (h : LeastOutside step blocked type) :
    step (LeastOutside step blocked) type := by
  cases h with
  | intro _ below leads => exact guarded.mono below leads

/-- With nothing blocked a type that the step leads to is in. -/
theorem of_step (leads : step (LeastOutside step []) type) : LeastOutside step [] type :=
  .intro List.not_mem_nil (fun _ => id) leads

/-- With nothing blocked types with one signature that come up are in both or not at all. -/
theorem of_signature_eq (guarded : GuardedStep step up) (comes : up type) {other : TypeRef}
    (same : type.signature = other.signature) (h : LeastOutside step [] other) :
    LeastOutside step [] type :=
  of_step (guarded.alike comes same (h.step_self guarded))

/-- Where less is blocked more is in. -/
theorem anti {blocked' : List String} (less : ∀ signature ∈ blocked', signature ∈ blocked)
    (h : LeastOutside step blocked type) : LeastOutside step blocked' type := by
  induction h with
  | intro fresh _ leads ih => exact .intro (fun there => fresh (less _ there)) ih leads

/-- Nothing is lost by blocking the signature of a type for its parts: of the types that are in,
each stays in, unless a type with that signature is reached on the way, and then that one is
reached without it. -/
theorem cons_or_step (guarded : GuardedStep step up) (comes : up type) {other : TypeRef}
    (h : LeastOutside step blocked other) :
    LeastOutside step (type.signature :: blocked) other ∨
      step (LeastOutside step (type.signature :: blocked)) type := by
  induction h with
  | @intro other holds fresh below leads ih =>
    by_cases reached : step (LeastOutside step (type.signature :: blocked)) type
    · exact .inr reached
    · have kept : ∀ part, holds part → LeastOutside step (type.signature :: blocked) part :=
        fun part there => (ih part there).resolve_right reached
      by_cases same : type.signature = other.signature
      · exact absurd (guarded.alike comes same (guarded.mono kept leads)) reached
      · refine .inl (.intro (fun there => ?_) kept leads)
        rcases List.mem_cons.mp there with back | there
        · exact same back.symm
        · exact fresh there

/-- A type is in exactly if its signature is not blocked and the step leads to it from types
that are in with that signature blocked as well. -/
theorem iff_cons (guarded : GuardedStep step up) (comes : up type) :
    LeastOutside step blocked type ↔ type.signature ∉ blocked ∧
      step (LeastOutside step (type.signature :: blocked)) type := by
  constructor
  · intro h
    refine ⟨h.notMem, ?_⟩
    rcases h.cons_or_step guarded comes with inside | reached
    · exact absurd (.head _) inside.notMem
    · exact reached
  · rintro ⟨fresh, leads⟩
    exact .intro fresh (fun part => anti fun signature => .tail _) leads

/-- Blocking signatures that no type has which is in makes no difference. -/
theorem iff_of_apart (apart : ∀ other, LeastOutside step [] other → other.signature ∉ blocked) :
    LeastOutside step blocked type ↔ LeastOutside step [] type := by
  refine ⟨anti (by simp), fun h => ?_⟩
  induction h with
  | @intro other holds fresh below leads ih =>
    exact .intro (apart _ (.intro fresh below leads)) ih leads

/-- A recursion that blocks the signature of each type for its parts computes the least predicate
on the configurations that it goes through. -/
theorem iff_of_recursion (guarded : GuardedStep step up) {bound : Nat}
    (visits computed : List String → TypeRef → Prop)
    (comes : ∀ blocked type, visits blocked type → up type)
    (short : ∀ blocked type, visits blocked type → type.signature ∉ blocked →
      blocked.length < bound)
    (cut : ∀ blocked type, type.signature ∈ blocked → ¬ computed blocked type)
    (rule : ∀ blocked type, visits blocked type → type.signature ∉ blocked → ∀ holds,
      (∀ part, visits (type.signature :: blocked) part →
        (computed (type.signature :: blocked) part ↔ holds part)) →
      (computed blocked type ↔ step holds type))
    (visit : visits blocked type) : computed blocked type ↔ LeastOutside step blocked type := by
  obtain ⟨left, enough⟩ : ∃ left, bound ≤ left + blocked.length := ⟨bound, by omega⟩
  induction left generalizing blocked type with
  | zero =>
    by_cases there : type.signature ∈ blocked
    · exact ⟨fun h => absurd h (cut _ _ there), fun h => absurd there h.notMem⟩
    · have room := short blocked type visit there
      omega
  | succ left ih =>
    by_cases there : type.signature ∈ blocked
    · exact ⟨fun h => absurd h (cut _ _ there), fun h => absurd there h.notMem⟩
    · rw [iff_cons guarded (comes _ _ visit), and_iff_right there]
      refine rule blocked type visit there _ fun part inside => ih inside ?_
      simp only [List.length_cons]
      omega

end LeastOutside

end StableTypes
