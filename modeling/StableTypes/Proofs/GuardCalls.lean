import StableTypes.Proofs.RecordedAnalysis
import StableTypes.Proofs.SignatureStack

/-!
# Any sequence of calls to a signature guard

A guard is handed about, and whoever holds it may enter and leave any signature. Each call does
one of five things, and every one leads from a guard that can come up to such a guard. So after any
number of calls set and stack hold the same, nothing twice and never more than the capacity. A call
that is answered with a refusal changes nothing.

What was entered is found again. Calls between an entry and its leaving may enter and leave further
signatures; as long as they never leave more than they entered, what the stack held before lies
untouched below. Once they have left all that they entered, leaving the first signature gives back
the guard from before it.
-/

namespace StableTypes

/-- A call to a signature guard. -/
inductive GuardCall where
  /-- To enter a signature. -/
  | enter (signature : String)
  /-- To leave a signature. -/
  | exit (signature : String)
deriving DecidableEq

/-- The answer to a call that does not fail. -/
inductive GuardReply where
  /-- To entering a signature. -/
  | entry (answer : GuardEntry)
  /-- The signature was left. -/
  | left
deriving DecidableEq

namespace GuardReply

/-- A signature was entered. -/
def isEntered : Except Fault GuardReply → Bool
  | .ok (.entry .entered) => true
  | _ => false

/-- A signature was left. -/
def isLeft : Except Fault GuardReply → Bool
  | .ok .left => true
  | _ => false

/-- How many signatures were entered. -/
def enteredCount (replies : List (Except Fault GuardReply)) : Nat := replies.countP isEntered

/-- How many signatures were left. -/
def leftCount (replies : List (Except Fault GuardReply)) : Nat := replies.countP isLeft

/-- The answers tell of signatures entered and left like opening and closing brackets. -/
structure Balanced (replies : List (Except Fault GuardReply)) : Prop where
  /-- At no time were more signatures left than had been entered. -/
  covered : ∀ count, leftCount (replies.take count) ≤ enteredCount (replies.take count)
  /-- In the end as many were left as had been entered. -/
  even : leftCount replies = enteredCount replies

/-- Beyond the last answer there is nothing to check. -/
theorem balanced_iff (replies : List (Except Fault GuardReply)) :
    Balanced replies ↔
      (∀ count < replies.length,
        leftCount (replies.take count) ≤ enteredCount (replies.take count)) ∧
      leftCount replies = enteredCount replies := by
  refine ⟨fun balanced => ⟨fun count _ => balanced.covered count, balanced.even⟩, ?_⟩
  rintro ⟨covered, even⟩
  refine ⟨fun count => ?_, even⟩
  rcases Nat.lt_or_ge count replies.length with inside | beyond
  · exact covered count inside
  · rw [List.take_of_length_le beyond]
    exact Nat.le_of_eq even

instance (replies : List (Except Fault GuardReply)) : Decidable (Balanced replies) :=
  decidable_of_iff _ (balanced_iff replies).symm

/-- The signatures entered are counted answer by answer. -/
theorem enteredCount_cons (reply : Except Fault GuardReply)
    (replies : List (Except Fault GuardReply)) :
    enteredCount (reply :: replies) = enteredCount [reply] + enteredCount replies :=
  (List.countP_append : ([reply] ++ replies).countP isEntered = _)

/-- The signatures left are counted answer by answer. -/
theorem leftCount_cons (reply : Except Fault GuardReply)
    (replies : List (Except Fault GuardReply)) :
    leftCount (reply :: replies) = leftCount [reply] + leftCount replies :=
  (List.countP_append : ([reply] ++ replies).countP isLeft = _)

end GuardReply

namespace GuardCall

/-- Makes a call on the guard at hand. -/
def perform : GuardCall → Analysis GuardReply
  | .enter signature => return .entry (← Analysis.enter signature)
  | .exit signature => do
    Analysis.exit signature
    return .left

/-- Makes calls one after the other, whether or not some of them fail. -/
def performAll : List GuardCall → SignatureGuard →
    List (Except Fault GuardReply) × SignatureGuard
  | [], guard => ([], guard)
  | call :: calls, guard =>
    let (reply, after) := call.perform.runOn guard
    let (replies, last) := performAll calls after
    (reply :: replies, last)

/-- What a call does: the answer and the guard afterwards. -/
inductive Effect (guard : SignatureGuard) :
    GuardCall → Except Fault GuardReply → SignatureGuard → Prop
  /-- A signature on the stack is a cycle. -/
  | cycle {signature : String} (there : signature ∈ guard.active) :
      Effect guard (.enter signature) (.ok (.entry .cycle)) guard
  /-- A new signature does not fit on a full stack. -/
  | tooDeep {signature : String} (fresh : signature ∉ guard.active)
      (full : guard.capacity ≤ guard.depth) :
      Effect guard (.enter signature) (.ok (.entry .tooDeep)) guard
  /-- A new signature is entered while there is room. -/
  | entered {signature : String} (fresh : signature ∉ guard.active)
      (roomy : guard.depth < guard.capacity) :
      Effect guard (.enter signature) (.ok (.entry .entered)) (guard.push signature)
  /-- The innermost signature is left. -/
  | left {signature : String} {rest : List String} (innermost : guard.stack = signature :: rest) :
      Effect guard (.exit signature) (.ok .left)
        { guard with active := guard.active.filter (· ≠ signature), stack := rest }
  /-- Another signature is not left. -/
  | refused {signature : String} (other : guard.stack.head? ≠ some signature) :
      Effect guard (.exit signature)
        (.error (.error
          s!"Signature guard out of order: expected {guard.innermost}, got {signature}")) guard

/-- Entering runs as it answers. -/
theorem runOn_perform_enter (signature : String) (guard : SignatureGuard) :
    (perform (.enter signature)).runOn guard =
      (.ok (.entry (guard.enter signature).1), (guard.enter signature).2) := rfl

/-- Leaving runs as it answers, and a failure keeps the guard. -/
theorem runOn_perform_exit (signature : String) (guard : SignatureGuard) :
    (perform (.exit signature)).runOn guard =
      match guard.exit signature with
      | .ok after => (.ok .left, after)
      | .error fault => (.error fault, guard) := by
  rw [perform, Analysis.runOn_bind, Analysis.runOn_exit]
  cases guard.exit signature <;> rfl

/-- Every call has one of the effects. -/
theorem effect (call : GuardCall) (guard : SignatureGuard) :
    Effect guard call (call.perform.runOn guard).1 (call.perform.runOn guard).2 := by
  cases call with
  | enter signature =>
    rw [runOn_perform_enter, SignatureGuard.enter]
    split
    next there => exact .cycle there
    next fresh =>
      split
      next full => exact .tooDeep fresh full
      next roomy => exact .entered fresh (Int.not_le.mp roomy)
  | exit signature =>
    rw [runOn_perform_exit, SignatureGuard.exit]
    rcases onStack : guard.stack with _ | ⟨top, rest⟩
    · exact .refused (by simp [onStack])
    · by_cases innermost : top = signature
      · subst innermost
        simp only [if_pos]
        exact .left onStack
      · simp only [if_neg innermost]
        exact .refused (by simpa [onStack] using innermost)

open GuardReply SignatureGuard

variable {guard after : SignatureGuard} {call : GuardCall} {reply : Except Fault GuardReply}

/-- A call leads to a guard that can come up. -/
theorem reachable_perform (call : GuardCall) (reachable : guard.Reachable) :
    (call.perform.runOn guard).2.Reachable := by
  cases call with
  | enter signature => exact reachable.enter signature
  | exit signature =>
    rw [runOn_perform_exit]
    cases left : guard.exit signature with
    | ok after => exact reachable.exit left
    | error fault => exact reachable

/-- All calls of a list lead to a guard that can come up. -/
theorem reachable_performAll (calls : List GuardCall) (reachable : guard.Reachable) :
    (performAll calls guard).2.Reachable := by
  induction calls generalizing guard with
  | nil => exact reachable
  | cons call calls ih => exact ih (reachable_perform call reachable)

/-- A call keeps the capacity. -/
theorem Effect.capacity_eq (effect : Effect guard call reply after) :
    after.capacity = guard.capacity := by
  cases effect <;> rfl

/-- All calls of a list keep the capacity. -/
theorem capacity_performAll (calls : List GuardCall) :
    (performAll calls guard).2.capacity = guard.capacity := by
  induction calls generalizing guard with
  | nil => rfl
  | cons call calls ih => exact ih.trans (call.effect guard).capacity_eq

/-- A call changes only what lies on top of the stack, unless it leaves what lies below. -/
theorem Effect.stack_eq (effect : Effect guard call reply after) {above below : List String}
    (onStack : guard.stack = above ++ below)
    (covered : leftCount [reply] ≤ above.length + enteredCount [reply]) :
    ∃ above', after.stack = above' ++ below ∧
      above'.length + leftCount [reply] = above.length + enteredCount [reply] := by
  cases effect with
  | cycle | tooDeep | refused => exact ⟨above, onStack, rfl⟩
  | @entered signature fresh roomy =>
    exact ⟨signature :: above, congrArg (List.cons signature) onStack, rfl⟩
  | @left signature rest innermost =>
    cases above with
    | nil => exact absurd covered (by decide)
    | cons top above =>
      rw [innermost, List.cons_append, List.cons.injEq] at onStack
      exact ⟨above, onStack.2, rfl⟩

/-- Calls that never leave more than was entered on top of a stack keep what lies below. -/
theorem stack_performAll (calls : List GuardCall) {above below : List String}
    (onStack : guard.stack = above ++ below)
    (covered : ∀ count, leftCount ((performAll calls guard).1.take count) ≤
      above.length + enteredCount ((performAll calls guard).1.take count)) :
    ∃ above', (performAll calls guard).2.stack = above' ++ below ∧
      above'.length + leftCount (performAll calls guard).1 =
        above.length + enteredCount (performAll calls guard).1 := by
  induction calls generalizing guard above with
  | nil => exact ⟨above, onStack, rfl⟩
  | cons call calls ih =>
    -- The first call moves the boundary above `below` by one at most. The remaining calls start
    -- from there, and what they may leave is counted without the first answer.
    have effect := call.effect guard
    rw [performAll] at covered ⊢
    dsimp only at covered ⊢
    generalize (call.perform.runOn guard).1 = reply at effect covered ⊢
    generalize (call.perform.runOn guard).2 = after at effect covered ⊢
    obtain ⟨above₁, onStack₁, length₁⟩ := effect.stack_eq onStack (covered 1)
    obtain ⟨above', onStack', length'⟩ := ih onStack₁ fun count => by
      have later := covered (count + 1)
      rw [List.take_succ_cons, leftCount_cons, enteredCount_cons] at later
      omega
    refine ⟨above', onStack', ?_⟩
    rw [leftCount_cons, enteredCount_cons]
    omega

/-- Calls that leave what they entered, and nothing else, give back the guard. -/
theorem performAll_balanced {calls : List GuardCall} (reachable : guard.Reachable)
    (balanced : Balanced (performAll calls guard).1) : (performAll calls guard).2 = guard := by
  have covered : ∀ count, leftCount ((performAll calls guard).1.take count) ≤
      ([] : List String).length + enteredCount ((performAll calls guard).1.take count) := by
    simpa using balanced.covered
  obtain ⟨above, onStack, length⟩ := stack_performAll calls (List.nil_append _).symm covered
  have none : above = [] := by
    rw [balanced.even] at length
    exact List.eq_nil_of_length_eq_zero (by simpa using length)
  subst none
  exact (reachable_performAll calls reachable).sound.ext reachable.sound
    (capacity_performAll calls) onStack

/-- A call that neither enters nor leaves a signature keeps the guard. -/
theorem Effect.unchanged (effect : Effect guard call reply after)
    (notEntered : reply ≠ .ok (.entry .entered)) (notLeft : reply ≠ .ok .left) :
    after = guard := by
  cases effect with
  | cycle | tooDeep | refused => rfl
  | entered => exact absurd rfl notEntered
  | left => exact absurd rfl notLeft

/-- Entering tells a cycle for what is in the set, too deep for anything else on a full stack, and
otherwise pushes. -/
theorem perform_enter_iff (signature : String) (guard : SignatureGuard) :
    ((perform (.enter signature)).runOn guard = (.ok (.entry .cycle), guard) ↔
      signature ∈ guard.active) ∧
    ((perform (.enter signature)).runOn guard = (.ok (.entry .tooDeep), guard) ↔
      signature ∉ guard.active ∧ guard.capacity ≤ guard.depth) ∧
    ((perform (.enter signature)).runOn guard = (.ok (.entry .entered), guard.push signature) ↔
      signature ∉ guard.active ∧ guard.depth < guard.capacity) := by
  rw [runOn_perform_enter, SignatureGuard.enter]
  by_cases there : signature ∈ guard.active
  · simp [there]
  · by_cases full : guard.capacity ≤ guard.depth
    · simp [there, full]
    · simp [there, full, Int.not_le.mp full]

/-- Only the innermost signature is left. -/
theorem perform_exit_iff (signature : String) (guard : SignatureGuard) :
    ((perform (.exit signature)).runOn guard).1 = .ok .left ↔
      guard.stack.head? = some signature := by
  have effect := effect (.exit signature) guard
  generalize ((perform (.exit signature)).runOn guard).1 = reply at effect ⊢
  generalize ((perform (.exit signature)).runOn guard).2 = after at effect
  cases effect with
  | left innermost => simp [innermost]
  | refused other => simp [other]

/-- What was entered is new and is now the innermost signature. -/
theorem Effect.pushed {signature : String}
    (effect : Effect guard (.enter signature) (.ok (.entry .entered)) after) :
    signature ∉ guard.active ∧ after = guard.push signature := by
  cases effect with
  | entered fresh roomy => exact ⟨fresh, rfl⟩

/-- A signature entered last can be left, and then the guard is what it was. -/
theorem perform_exit_push {signature : String} (fresh : signature ∉ guard.active) :
    (perform (.exit signature)).runOn (guard.push signature) = (.ok .left, guard) := by
  rw [runOn_perform_exit, exit_push fresh]

end GuardCall

open GuardCall GuardReply in
/-- After any calls to a new guard its set and its stack hold the same, nothing twice, and never
more than the capacity. Entering tells a cycle for what is on the stack, too deep for anything else
on a full stack, and otherwise pushes; only the innermost signature is left. A call that neither
enters nor leaves a signature keeps the guard. A signature that was entered can be left after any
calls that balance, and no other can; the guard is then what it was before. -/
theorem guard_is_a_bounded_stack (capacity : Int) (calls : List GuardCall) :
    let guard := (performAll calls (.fresh capacity)).2
    ((∀ signature, signature ∈ guard.active ↔ signature ∈ guard.stack) ∧
      guard.active.Nodup ∧ guard.stack.Nodup ∧ (guard.stack.length : Int) ≤ max 0 capacity) ∧
    (∀ signature,
      ((perform (.enter signature)).runOn guard = (.ok (.entry .cycle), guard) ↔
        signature ∈ guard.stack) ∧
      ((perform (.enter signature)).runOn guard = (.ok (.entry .tooDeep), guard) ↔
        signature ∉ guard.stack ∧ capacity ≤ guard.stack.length) ∧
      ((perform (.enter signature)).runOn guard =
          (.ok (.entry .entered), ⟨capacity, signature :: guard.active, signature :: guard.stack⟩) ↔
        signature ∉ guard.stack ∧ guard.stack.length < capacity) ∧
      (((perform (.exit signature)).runOn guard).1 = .ok .left ↔
        guard.stack.head? = some signature)) ∧
    (∀ call : GuardCall, (call.perform.runOn guard).1 ≠ .ok (.entry .entered) →
      (call.perform.runOn guard).1 ≠ .ok .left → (call.perform.runOn guard).2 = guard) ∧
    (∀ signature between,
      let entered := (perform (.enter signature)).runOn guard
      let later := performAll between entered.2
      entered.1 = .ok (.entry .entered) → Balanced later.1 →
      (perform (.exit signature)).runOn later.2 = (.ok .left, guard) ∧
      ∀ other, ((perform (.exit other)).runOn later.2).1 = .ok .left → other = signature) := by
  intro guard
  have reachable : guard.Reachable := reachable_performAll calls (.fresh capacity)
  have sound := reachable.sound
  have capacity_eq : guard.capacity = capacity := capacity_performAll calls
  have same : ∀ signature, signature ∈ guard.active ↔ signature ∈ guard.stack := by
    rw [sound.active_eq]
    exact fun _ => Iff.rfl
  refine ⟨⟨same, sound.active_eq ▸ sound.distinct, sound.distinct,
    capacity_eq ▸ sound.bounded⟩, ?_, ?_, ?_⟩
  · intro signature
    obtain ⟨cycle, tooDeep, entered⟩ := perform_enter_iff signature guard
    rw [same, capacity_eq] at tooDeep entered
    rw [SignatureGuard.push, capacity_eq] at entered
    exact ⟨cycle.trans (same signature), tooDeep, entered, perform_exit_iff signature guard⟩
  · exact fun call => (call.effect guard).unchanged
  · intro signature between entered later answer balanced
    have effect := (GuardCall.enter signature).effect guard
    have reachable₁ : entered.2.Reachable := reachable_perform _ reachable
    rw [answer] at effect
    obtain ⟨fresh, pushed⟩ := effect.pushed
    have back : later.2 = guard.push signature :=
      (performAll_balanced reachable₁ balanced).trans pushed
    rw [back]
    refine ⟨perform_exit_push fresh, fun other left => ?_⟩
    rw [perform_exit_iff] at left
    exact (Option.some.inj left).symm

/-- With `A` entered and room for two more, `B` is entered and left again. Between the two `C` is
entered and left, and while it is there `A` is a cycle, `D` finds the stack full and `B` is not the
innermost signature. -/
theorem second_signature_is_left :
    let guard : SignatureGuard := ⟨3, ["A"], ["A"]⟩
    let between : List GuardCall :=
      [.enter "C", .enter "A", .enter "D", .exit "B", .exit "C"]
    let entered := (GuardCall.enter "B").perform.runOn guard
    let later := GuardCall.performAll between entered.2
    entered.1 = .ok (.entry .entered) ∧ GuardReply.Balanced later.1 ∧
      (GuardCall.exit "B").perform.runOn later.2 = (.ok .left, guard) := by
  intro guard between entered later
  have answer : entered.1 = .ok (.entry .entered) := by decide
  have balanced : GuardReply.Balanced later.1 := by decide
  exact ⟨answer, balanced,
    ((guard_is_a_bounded_stack 3 [.enter "A"]).2.2.2 "B" between answer balanced).1⟩

end StableTypes
