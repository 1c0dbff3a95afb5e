import StableTypes.Guard
import Mathlib.Data.List.Nodup

/-!
# One step of a signature guard

What entering and leaving a signature do to the stack and to the set beside it. The
two list the same, nothing twice and no more than fits, after any steps. Leaving the
signature entered last gives back the guard from before, whatever it held.
-/

namespace StableTypes

/-- Taking a new name out again that was put in front gives back the list. -/
theorem filter_ne_cons_of_notMem {name : String} {names : List String} (fresh : name ∉ names) :
    (name :: names).filter (· ≠ name) = names := by
  rw [List.filter_cons_of_neg (by simp), List.filter_eq_self]
  intro other member
  exact decide_eq_true fun same => fresh (same ▸ member)

namespace SignatureGuard

variable {guard : SignatureGuard} {signature : String}

@[simp] theorem push_capacity : (guard.push signature).capacity = guard.capacity := rfl

@[simp] theorem push_active : (guard.push signature).active = signature :: guard.active := rfl

@[simp] theorem push_stack : (guard.push signature).stack = signature :: guard.stack := rfl

@[simp] theorem push_depth : (guard.push signature).depth = guard.depth + 1 := rfl

/-- One more signature leaves room for one less. -/
theorem room_push {left : Nat} (h : guard.room = left + 1) :
    (guard.push signature).room = left := by
  unfold room at h ⊢
  simp only [push_capacity, push_depth]
  omega

/-- There is room exactly while the stack is not full. -/
theorem room_pos_iff : 0 < guard.room ↔ (guard.depth : Int) < guard.capacity := by
  unfold room
  omega

/-- A signature that is there already is a cycle, and the guard stays as it is. -/
theorem enter_of_mem (h : signature ∈ guard.active) :
    guard.enter signature = (.cycle, guard) := by
  rw [enter, if_pos h]

/-- A new signature does not fit on a full stack, and the guard stays as it is. -/
theorem enter_of_full (fresh : signature ∉ guard.active) (full : guard.room = 0) :
    guard.enter signature = (.tooDeep, guard) := by
  have h : guard.capacity ≤ guard.depth := by
    unfold room at full
    omega
  rw [enter, if_neg fresh, if_pos h]

/-- A new signature is entered while there is room. -/
theorem enter_of_room (fresh : signature ∉ guard.active) (roomy : 0 < guard.room) :
    guard.enter signature = (.entered, guard.push signature) := by
  have h : ¬ guard.capacity ≤ guard.depth := by
    have := room_pos_iff.mp roomy
    omega
  rw [enter, if_neg fresh, if_neg h]

/-- Leaving the signature entered last gives back the guard from before. -/
theorem exit_push (fresh : signature ∉ guard.active) :
    (guard.push signature).exit signature = .ok guard := by
  simp only [exit, push_stack, if_pos, push_active, filter_ne_cons_of_notMem fresh, push_capacity]

/-- What holds of every guard that comes up. -/
structure Sound (guard : SignatureGuard) : Prop where
  /-- The set lists what the stack lists. -/
  active_eq : guard.active = guard.stack
  /-- No signature is on the stack twice. -/
  distinct : guard.stack.Nodup
  /-- The stack holds no more than the capacity. -/
  bounded : (guard.depth : Int) ≤ max 0 guard.capacity

/-- A guard with nothing entered is sound. -/
theorem sound_fresh (capacity : Int) : (fresh capacity).Sound :=
  ⟨rfl, List.nodup_nil, Int.le_max_left 0 capacity⟩

/-- Entering keeps a guard sound, whatever the answer is. -/
theorem Sound.enter (sound : guard.Sound) (signature : String) :
    (guard.enter signature).2.Sound := by
  unfold SignatureGuard.enter
  split
  · exact sound
  next fresh =>
    split
    · exact sound
    next roomy =>
      rw [sound.active_eq] at fresh
      refine ⟨congrArg _ sound.active_eq, List.nodup_cons.mpr ⟨fresh, sound.distinct⟩, ?_⟩
      change ((guard.depth + 1 : Nat) : Int) ≤ max 0 guard.capacity
      omega

/-- Leaving keeps a guard sound. -/
theorem Sound.exit {after : SignatureGuard} (sound : guard.Sound)
    (left : guard.exit signature = .ok after) : after.Sound := by
  unfold SignatureGuard.exit at left
  split at left
  next top rest onStack =>
    split at left
    next innermost =>
      cases left
      subst innermost
      have distinct := sound.distinct
      rw [onStack, List.nodup_cons] at distinct
      have remaining : guard.active.filter (· ≠ top) = rest := by
        rw [sound.active_eq, onStack, filter_ne_cons_of_notMem distinct.1]
      refine ⟨remaining, distinct.2, ?_⟩
      have bounded := sound.bounded
      simp only [depth, onStack, List.length_cons] at bounded ⊢
      omega
    · cases left
  · cases left

/-- Sound guards with one capacity and one stack are one guard. -/
theorem Sound.ext {guard' : SignatureGuard} (sound : guard.Sound) (sound' : guard'.Sound)
    (capacity : guard.capacity = guard'.capacity) (stack : guard.stack = guard'.stack) :
    guard = guard' := by
  have sets : guard.active = guard'.active := by rw [sound.active_eq, sound'.active_eq, stack]
  cases guard
  cases guard'
  simp_all

/-- A guard that entering and leaving signatures can lead to. -/
inductive Reachable : SignatureGuard → Prop
  /-- Nothing is entered yet. -/
  | fresh (capacity : Int) : Reachable (fresh capacity)
  /-- After entering, whatever the answer is. -/
  | enter {guard : SignatureGuard} (signature : String) :
      Reachable guard → Reachable (guard.enter signature).2
  /-- After leaving the innermost signature. -/
  | exit {guard after : SignatureGuard} {signature : String} :
      Reachable guard → guard.exit signature = .ok after → Reachable after

/-- Every guard that comes up is sound. -/
theorem Reachable.sound (reachable : guard.Reachable) : guard.Sound := by
  induction reachable with
  | fresh capacity => exact sound_fresh capacity
  | enter signature _ ih => exact ih.enter signature
  | exit _ left ih => exact ih.exit left

end SignatureGuard

end StableTypes
