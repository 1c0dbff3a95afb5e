import StableTypes.Proofs.RecordedAnalysis
import StableTypes.Proofs.SignatureStack

/-!
# The outcome behind a guarded classification

A classification on a guard always comes to an end with an outcome, and the guard
is then what it was. The outcome depends on the signatures entered and on the room
left, and on nothing else of the guard, so it is a function of the type: the rules
applied to the outcomes of the parts, one signature deeper. The induction is on
the room, the rules are passed through by the relation that settling is, and an
invariant of the guards and types that come up says which steps may be recorded.
-/

namespace StableTypes.Judge

/-- An outcome, or what a fault is turned into for a type of this signature. -/
def recovered (signature : String) : Except Fault Classification → Classification
  | .ok outcome => outcome
  | .error fault => failureOutcome signature fault

/-- The outcome of a type where the signatures in `active` are entered and `room`
more fit. -/
def outcomeWithin (judge : Judge) : (room : Nat) → (active : List String) → TypeRef → Classification
  | room, active, type =>
    if type.signature ∈ active then .runtime type.signature Reason.circularReference
    else
      match room with
      | 0 => .runtime type.signature Reason.tooComplex
      | room + 1 => recovered type.signature
          (judge.typeOutcome (m := Except Fault)
            (fun part => .ok (judge.outcomeWithin room (type.signature :: active) part)) type)

/-- The outcome of a type on a guard. -/
def outcomeOn (judge : Judge) (guard : SignatureGuard) (type : TypeRef) : Classification :=
  judge.outcomeWithin guard.room guard.active type

/-- A type under classification is a cycle. -/
theorem outcomeWithin_of_mem {judge : Judge} {room : Nat} {active : List String} {type : TypeRef}
    (h : type.signature ∈ active) :
    judge.outcomeWithin room active type =
      .runtime type.signature Reason.circularReference := by
  cases room <;> rw [outcomeWithin, if_pos h]

/-- A new type is too complex where no more signatures fit. -/
theorem outcomeWithin_zero {judge : Judge} {active : List String} {type : TypeRef}
    (h : type.signature ∉ active) :
    judge.outcomeWithin 0 active type = .runtime type.signature Reason.tooComplex := by
  rw [outcomeWithin, if_neg h]

/-- A new type is judged by the outcomes of its parts, one signature deeper. -/
theorem outcomeWithin_succ {judge : Judge} {room : Nat} {active : List String} {type : TypeRef}
    (h : type.signature ∉ active) :
    judge.outcomeWithin (room + 1) active type = recovered type.signature
      (judge.typeOutcome (m := Except Fault)
        (fun part => .ok (judge.outcomeWithin room (type.signature :: active) part)) type) := by
  rw [outcomeWithin, if_neg h]

section

open Recorded

variable {allowed : GuardEvent → Prop} {guard : SignatureGuard} {signature : String}
  {outcome : Recorded Classification}

/-- Entering is written down with the answer of the guard. -/
theorem runFrom_guarded (events : List GuardEvent) :
    (guarded signature outcome).runFrom guard events =
      (match (guard.enter signature).1 with
        | .cycle => pure (.runtime signature Reason.circularReference)
        | .tooDeep => pure (.runtime signature Reason.tooComplex)
        | .entered => do
          let result ← tryCatch outcome fun fault => pure (failureOutcome signature fault)
          exit signature
          pure result : Recorded Classification).runFrom (guard.enter signature).2
        (events ++
          [.enter signature (guard.enter signature).1 (guard.enter signature).2.depth]) := by
  unfold guarded
  rw [runFrom_bind]
  rfl

/-- A signature that is there already is refused, and that is the only step. -/
theorem settles_guarded_cycle (h : signature ∈ guard.active)
    (step : allowed (.enter signature .cycle guard.depth)) :
    Settles allowed guard (guarded signature outcome)
      (.ok (.runtime signature Reason.circularReference)) := by
  intro events
  refine ⟨[.enter signature .cycle guard.depth], ?_, by simpa using step⟩
  rw [runFrom_guarded, SignatureGuard.enter_of_mem h]
  rfl

/-- A new signature is refused by a full stack, and that is the only step. -/
theorem settles_guarded_tooDeep (fresh : signature ∉ guard.active) (full : guard.room = 0)
    (step : allowed (.enter signature .tooDeep guard.depth)) :
    Settles allowed guard (guarded signature outcome)
      (.ok (.runtime signature Reason.tooComplex)) := by
  intro events
  refine ⟨[.enter signature .tooDeep guard.depth], ?_, by simpa using step⟩
  rw [runFrom_guarded, SignatureGuard.enter_of_full fresh full]
  rfl

/-- A signature that is entered is left again, and the steps in between are those of the outcome. -/
theorem runFrom_guarded_of_entered {result : Except Fault Classification}
    {events steps : List GuardEvent} (fresh : signature ∉ guard.active) (roomy : 0 < guard.room)
    (inside : outcome.runFrom (guard.push signature)
        (events ++ [.enter signature .entered (guard.depth + 1)]) =
      (result, guard.push signature,
        events ++ [.enter signature .entered (guard.depth + 1)] ++ steps)) :
    (guarded signature outcome).runFrom guard events =
      (.ok (recovered signature result), guard,
        events ++ .enter signature .entered (guard.depth + 1) ::
          (steps ++ [.exit signature guard.depth])) := by
  have caught : (tryCatch outcome fun fault => pure (failureOutcome signature fault)).runFrom
      (guard.push signature) (events ++ [.enter signature .entered (guard.depth + 1)]) =
      (.ok (recovered signature result), guard.push signature,
        events ++ [.enter signature .entered (guard.depth + 1)] ++ steps) := by
    rw [runFrom_tryCatch, inside]
    cases result <;> rfl
  rw [runFrom_guarded, SignatureGuard.enter_of_room fresh roomy]
  dsimp only [SignatureGuard.push_depth]
  rw [runFrom_bind, caught]
  dsimp only
  rw [runFrom_bind, runFrom_exit, SignatureGuard.exit_push fresh]
  simp only [List.append_assoc, List.singleton_append]
  rfl

/-- A signature that is entered is left again, whatever happens in between. -/
theorem settles_guarded_entered {result : Except Fault Classification}
    (fresh : signature ∉ guard.active) (roomy : 0 < guard.room)
    (inside : Settles allowed (guard.push signature) outcome result)
    (entering : allowed (.enter signature .entered (guard.depth + 1)))
    (leaving : allowed (.exit signature guard.depth)) :
    Settles allowed guard (guarded signature outcome) (.ok (recovered signature result)) := by
  intro events
  obtain ⟨steps, run, fine⟩ := inside (events ++ [.enter signature .entered (guard.depth + 1)])
  refine ⟨_, runFrom_guarded_of_entered fresh roomy run, fun event member => ?_⟩
  simp only [List.mem_cons, List.mem_append, List.not_mem_nil, or_false] at member
  rcases member with rfl | member | rfl
  · exact entering
  · exact fine event member
  · exact leaving

end

/-- An invariant of the guards and types that come up during a classification: it passes
from a type to its parts, one signature deeper, and the steps it leads to are allowed. -/
structure StepInvariant (judge : Judge) (allowed : GuardEvent → Prop)
    (visits : SignatureGuard → TypeRef → Prop) : Prop where
  /-- The parts of a type that is entered come up with its signature on the stack. -/
  parts : ∀ guard type part, visits guard type → type.signature ∉ guard.active →
    judge.HasPart type part → visits (guard.push type.signature) part
  /-- Cycles may be recorded. -/
  cycle : ∀ guard type, visits guard type → type.signature ∈ guard.active →
    allowed (.enter type.signature .cycle guard.depth)
  /-- Refusals for want of room may be recorded. -/
  tooDeep : ∀ guard type, visits guard type → type.signature ∉ guard.active →
    guard.room = 0 → allowed (.enter type.signature .tooDeep guard.depth)
  /-- Entering a type may be recorded. -/
  entered : ∀ guard type, visits guard type → type.signature ∉ guard.active →
    allowed (.enter type.signature .entered (guard.depth + 1))
  /-- Leaving a type may be recorded. -/
  left : ∀ guard type, visits guard type → type.signature ∉ guard.active →
    allowed (.exit type.signature guard.depth)

/-- A type under classification settles as a cycle, however much room there is. -/
theorem settles_classifyWithin_of_mem {judge : Judge} {allowed : GuardEvent → Prop}
    {room : Nat} {guard : SignatureGuard} {type : TypeRef}
    (there : type.signature ∈ guard.active)
    (step : allowed (.enter type.signature .cycle guard.depth)) :
    Recorded.Settles allowed guard (judge.classifyWithin room type)
      (.ok (judge.outcomeWithin room guard.active type)) := by
  rw [outcomeWithin_of_mem there]
  cases room <;> exact settles_guarded_cycle there step

/-- A classification settles with the outcome behind it, by allowed steps. -/
theorem settles_classifyWithin {judge : Judge} {allowed : GuardEvent → Prop}
    {visits : SignatureGuard → TypeRef → Prop} (invariant : judge.StepInvariant allowed visits)
    {room : Nat} {guard : SignatureGuard} (left : guard.room = room) {type : TypeRef}
    (visit : visits guard type) :
    Recorded.Settles allowed guard (judge.classifyWithin room type)
      (.ok (judge.outcomeWithin room guard.active type)) := by
  induction room generalizing guard type with
  | zero =>
    by_cases there : type.signature ∈ guard.active
    · exact settles_classifyWithin_of_mem there (invariant.cycle guard type visit there)
    · rw [outcomeWithin_zero there, classifyWithin]
      exact settles_guarded_tooDeep there left (invariant.tooDeep guard type visit there left)
  | succ room ih =>
    by_cases there : type.signature ∈ guard.active
    · exact settles_classifyWithin_of_mem there (invariant.cycle guard type visit there)
    · rw [outcomeWithin_succ there, classifyWithin]
      have inside := rel_typeOutcome (Recorded.settling allowed (guard.push type.signature))
        fun part member => ih (SignatureGuard.room_push left)
          (invariant.parts guard type part visit there member)
      exact settles_guarded_entered there (by omega) inside
        (invariant.entered guard type visit there) (invariant.left guard type visit there)

/-- The recorded classification of a type ends with the outcome behind it, and all its steps
are allowed. -/
theorem record_eq {judge : Judge} {allowed : GuardEvent → Prop}
    {visits : SignatureGuard → TypeRef → Prop} (invariant : judge.StepInvariant allowed visits)
    {guard : SignatureGuard} {type : TypeRef} (visit : visits guard type) :
    ∃ steps, judge.record type guard = (.ok (judge.outcomeOn guard type), guard, steps) ∧
      ∀ event ∈ steps, allowed event :=
  settles_classifyWithin invariant rfl visit []

/-- A classification on a guard ends with the outcome behind it, and the guard is what
it was. -/
theorem classify_runOn (judge : Judge) (type : TypeRef) (guard : SignatureGuard) :
    (judge.classify type).runOn guard = (.ok (judge.outcomeOn guard type), guard) := by
  have invariant : judge.StepInvariant (fun _ => True) (fun _ _ => True) := by
    constructor <;> intros <;> trivial
  obtain ⟨steps, run, -⟩ := record_eq invariant trivial
  rw [← record_forgets, run]

/-- The verdict on a type that is classified with nothing entered. -/
def freshVerdict (judge : Judge) (type : TypeRef) : Except Fault Verdict :=
  ((judge.classify type).runOn judge.freshGuard).1.map Classification.verdict

/-- The verdict is that of the outcome behind the classification. -/
theorem freshVerdict_eq (judge : Judge) (type : TypeRef) :
    judge.freshVerdict type = .ok (judge.outcomeOn judge.freshGuard type).verdict := by
  rw [freshVerdict, classify_runOn]
  rfl

/-- A type that cannot be handed over has an outcome too. -/
theorem classifyReading_runOn (judge : Judge) (reading : Except Fault TypeRef)
    (guard : SignatureGuard) :
    ∃ outcome, (judge.classifyReading reading).runOn guard = (.ok outcome, guard) := by
  cases reading with
  | ok type => exact ⟨_, classify_runOn judge type guard⟩
  | error fault => exact ⟨_, rfl⟩

/-- Giving a value and leaving the guard as it is is respected by every rule. -/
def giving (guard : SignatureGuard) : StepRelation Analysis Id where
  rel analysis value := analysis.runOn guard = (.ok value, guard)
  pure _ := rfl
  bind given continued := by
    rw [Analysis.runOn_bind, given]
    exact continued _

/-- The rules for a declaration, applied on a guard, come to what they make of the
outcomes on that guard. -/
theorem classifyClass_runOn (judge : Judge) (declaration : Declaration)
    (declarations : DeclarationGuard) (guard : SignatureGuard) :
    (judge.classifyClass declaration declarations).runOn guard =
      (.ok (judge.analyzeClass (m := Id) (judge.outcomeOn guard) declaration declarations),
        guard) :=
  rel_analyzeClass (giving guard) fun part _ => classify_runOn judge part guard

end StableTypes.Judge
