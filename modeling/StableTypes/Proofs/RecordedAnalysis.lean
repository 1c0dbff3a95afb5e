import StableTypes.Classifier.Guarded
import StableTypes.Proofs.FaultingRun
import StableTypes.Proofs.RuleRelation

/-!
# Classification with its guard steps on record

The same classification is run in a monad that writes down every step of the
guard. Forgetting the record gives back the run that the program makes, so what
is read off the record is true of that run: how far the guard grows, which entries
are refused, and whether a signature is ever left out of order.
-/

namespace StableTypes

namespace Analysis

variable {α β : Type}

/-- What follows a value is run on the guard that the value was reached with. -/
theorem runOn_bind (first : Analysis α) (next : α → Analysis β) (guard : SignatureGuard) :
    (first >>= next).runOn guard =
      match first.runOn guard with
      | (.ok value, after) => (next value).runOn after
      | (.error fault, after) => (.error fault, after) := by
  unfold runOn
  rw [run_bind_fault]
  rcases (ExceptT.run first).run guard with ⟨_ | _, _⟩ <;> rfl

/-- A fault is recovered from on the guard that it was reached with. -/
theorem runOn_tryCatch (attempt : Analysis α) (recover : Fault → Analysis α)
    (guard : SignatureGuard) :
    (tryCatch attempt recover).runOn guard =
      match attempt.runOn guard with
      | (.ok value, after) => (.ok value, after)
      | (.error fault, after) => (recover fault).runOn after := by
  unfold runOn
  rw [run_tryCatch_fault]
  rcases (ExceptT.run attempt).run guard with ⟨_ | _, _⟩ <;> rfl

/-- Leaving keeps the guard where the signature is not the innermost one. -/
theorem runOn_exit (signature : String) (guard : SignatureGuard) :
    (exit signature).runOn guard =
      match guard.exit signature with
      | .ok after => (.ok (), after)
      | .error fault => (.error fault, guard) := by
  unfold exit
  rw [runOn_bind, show (get : Analysis SignatureGuard).runOn guard = (.ok guard, guard) from rfl]
  dsimp only
  cases guard.exit signature <;> rfl

end Analysis

/-- A step of a guard. -/
inductive GuardEvent where
  /-- A signature was to be entered, with this answer and this depth afterwards. -/
  | enter (signature : String) (entry : GuardEntry) (depth : Nat)
  /-- A signature was left, with this depth afterwards. -/
  | exit (signature : String) (depth : Nat)
  /-- A signature was to be left that was not the innermost one. -/
  | disorder (signature : String)
deriving DecidableEq, Inhabited

/-- An analysis that writes down the steps of its guard, the latest last. -/
abbrev Recorded := ExceptT Fault (StateM (SignatureGuard × List GuardEvent))

namespace Recorded

variable {α β : Type}

/-- Enters a signature and writes it down. -/
def enter (signature : String) : Recorded GuardEntry := do
  let (guard, events) ← get
  let (entry, after) := guard.enter signature
  set (after, events ++ [.enter signature entry after.depth])
  return entry

/-- Leaves a signature and writes it down. -/
def exit (signature : String) : Recorded Unit := do
  let (guard, events) ← get
  match guard.exit signature with
  | .ok after => set (after, events ++ [.exit signature after.depth])
  | .error fault => do
    set (guard, events ++ [.disorder signature])
    throw fault

instance : Guarding Recorded := ⟨enter, exit⟩

/-- Runs a recorded analysis from a guard and the events so far. -/
def runFrom (analysis : Recorded α) (guard : SignatureGuard) (events : List GuardEvent) :
    Except Fault α × SignatureGuard × List GuardEvent :=
  (ExceptT.run analysis).run (guard, events)

/-- What follows a value is run from where the value was reached. -/
theorem runFrom_bind (first : Recorded α) (next : α → Recorded β) (guard : SignatureGuard)
    (events : List GuardEvent) :
    (first >>= next).runFrom guard events =
      match first.runFrom guard events with
      | (.ok value, after, soFar) => (next value).runFrom after soFar
      | (.error fault, after, soFar) => (.error fault, after, soFar) := by
  unfold runFrom
  rw [run_bind_fault]
  rcases (ExceptT.run first).run (guard, events) with ⟨_ | _, _, _⟩ <;> rfl

/-- A fault is recovered from where it was reached. -/
theorem runFrom_tryCatch (attempt : Recorded α) (recover : Fault → Recorded α)
    (guard : SignatureGuard) (events : List GuardEvent) :
    (tryCatch attempt recover).runFrom guard events =
      match attempt.runFrom guard events with
      | (.ok value, after, soFar) => (.ok value, after, soFar)
      | (.error fault, after, soFar) => (recover fault).runFrom after soFar := by
  unfold runFrom
  rw [run_tryCatch_fault]
  rcases (ExceptT.run attempt).run (guard, events) with ⟨_ | _, _, _⟩ <;> rfl

/-- Leaving is written down whether or not the signature is the innermost one. -/
theorem runFrom_exit (signature : String) (guard : SignatureGuard) (events : List GuardEvent) :
    (exit signature).runFrom guard events =
      match guard.exit signature with
      | .ok after => (.ok (), after, events ++ [.exit signature after.depth])
      | .error fault => (.error fault, guard, events ++ [.disorder signature]) := by
  unfold exit
  rw [runFrom_bind, show (get : Recorded (SignatureGuard × List GuardEvent)).runFrom guard events =
    (.ok (guard, events), guard, events) from rfl]
  dsimp only
  cases guard.exit signature <;> rfl

/-- From `guard` the analysis ends with `result`, puts the guard back as it was, and
takes only steps that are allowed. -/
def Settles (allowed : GuardEvent → Prop) (guard : SignatureGuard) (analysis : Recorded α)
    (result : Except Fault α) : Prop :=
  ∀ events, ∃ steps, analysis.runFrom guard events = (result, guard, events ++ steps) ∧
    ∀ event ∈ steps, allowed event

/-- A value settles at once. -/
theorem settles_pure {allowed : GuardEvent → Prop} {guard : SignatureGuard} (value : α) :
    Settles allowed guard (pure value) (.ok value) :=
  fun events => ⟨[], by rw [List.append_nil]; rfl, by simp⟩

/-- A fault settles at once, and nothing follows it. -/
theorem settles_throw {allowed : GuardEvent → Prop} {guard : SignatureGuard} (fault : Fault)
    (next : α → Recorded β) :
    Settles allowed guard (throw fault >>= next) (.error fault) :=
  fun events => ⟨[], by rw [List.append_nil]; rfl, by simp⟩

/-- Two computations that settle on one guard settle one after the other. -/
theorem settles_bind {allowed : GuardEvent → Prop} {guard : SignatureGuard}
    {first : Recorded α} {result : Except Fault α} {next : α → Recorded β}
    {rest : α → Except Fault β} (settles : Settles allowed guard first result)
    (continued : ∀ value, Settles allowed guard (next value) (rest value)) :
    Settles allowed guard (first >>= next) (result >>= rest) := by
  intro events
  obtain ⟨steps, run, fine⟩ := settles events
  cases result with
  | error fault =>
    refine ⟨steps, ?_, fine⟩
    rw [runFrom_bind, run]
    rfl
  | ok value =>
    obtain ⟨steps', run', fine'⟩ := continued value (events ++ steps)
    refine ⟨steps ++ steps', ?_, ?_⟩
    · rw [runFrom_bind, run, ← List.append_assoc]
      exact run'
    · intro event member
      rcases List.mem_append.mp member with early | late
      · exact fine event early
      · exact fine' event late

/-- Settling on a guard is respected by every rule. -/
def settling (allowed : GuardEvent → Prop) (guard : SignatureGuard) :
    FaultRelation Recorded (Except Fault) where
  rel := Settles allowed guard
  pure := settles_pure
  bind := settles_bind
  throw fault next _ := settles_throw fault next

/-- Forgetting the record of the one computation gives the other. -/
def Forgets (recorded : Recorded α) (analysis : Analysis α) : Prop :=
  ∀ guard events, ((recorded.runFrom guard events).1, (recorded.runFrom guard events).2.1) =
    analysis.runOn guard

/-- Forgetting passes through a sequence. -/
theorem forgets_bind {first : Recorded α} {first' : Analysis α} {next : α → Recorded β}
    {next' : α → Analysis β} (forgets : Forgets first first')
    (continued : ∀ value, Forgets (next value) (next' value)) :
    Forgets (first >>= next) (first' >>= next') := by
  intro guard events
  have reached := forgets guard events
  rw [runFrom_bind, Analysis.runOn_bind, ← reached]
  obtain ⟨result, after, soFar⟩ := first.runFrom guard events
  cases result with
  | error fault => rfl
  | ok value => exact continued value after soFar

/-- Forgetting is respected by every rule. -/
def forgetting : FaultRelation Recorded Analysis where
  rel := Forgets
  pure _ _ _ := rfl
  bind := forgets_bind
  throw _ _ _ _ _ := rfl

/-- Entering is the same with a record. -/
theorem forgets_enter (signature : String) :
    Forgets (enter signature) (Analysis.enter signature) :=
  fun _ _ => rfl

/-- Leaving is the same with a record. -/
theorem forgets_exit (signature : String) :
    Forgets (exit signature) (Analysis.exit signature) := by
  intro guard events
  rw [runFrom_exit, Analysis.runOn_exit]
  cases guard.exit signature <;> rfl

/-- Recovering from a fault is the same with a record. -/
theorem forgets_tryCatch {attempt : Recorded α} {attempt' : Analysis α}
    {recover : Fault → Recorded α} {recover' : Fault → Analysis α}
    (forgets : Forgets attempt attempt')
    (recovered : ∀ fault, Forgets (recover fault) (recover' fault)) :
    Forgets (tryCatch attempt recover) (tryCatch attempt' recover') := by
  intro guard events
  have reached := forgets guard events
  rw [runFrom_tryCatch, Analysis.runOn_tryCatch, ← reached]
  obtain ⟨result, after, soFar⟩ := attempt.runFrom guard events
  cases result with
  | ok value => rfl
  | error fault => exact recovered fault after soFar

end Recorded

namespace Judge

open Recorded

/-- Guarding an outcome is the same with a record. -/
theorem forgets_guarded {signature : String} {outcome : Recorded Classification}
    {outcome' : Analysis Classification} (forgets : Forgets outcome outcome') :
    Forgets (guarded signature outcome) (guarded signature outcome') := by
  unfold guarded
  refine forgets_bind (forgets_enter signature) fun entry => ?_
  cases entry with
  | cycle => exact fun _ _ => rfl
  | tooDeep => exact fun _ _ => rfl
  | entered =>
    refine forgets_bind (forgets_tryCatch forgets fun _ _ _ => rfl) fun result => ?_
    exact forgets_bind (forgets_exit signature) fun _ _ _ => rfl

/-- Classifying is the same with a record. -/
theorem forgets_classifyWithin (judge : Judge) (room : Nat) (type : TypeRef) :
    Forgets (judge.classifyWithin room type) (judge.classifyWithin room type) := by
  induction room generalizing type with
  | zero => exact forgets_guarded fun _ _ => rfl
  | succ room ih => exact forgets_guarded (rel_typeOutcome forgetting fun part _ => ih part)

/-- The classification of a type on a guard: its result, the guard afterwards, and the
steps of the guard on the way. -/
def record (judge : Judge) (type : TypeRef) (guard : SignatureGuard) :
    Except Fault Classification × SignatureGuard × List GuardEvent :=
  (judge.classifyWithin guard.room type : Recorded Classification).runFrom guard []

/-- The recorded classification is the one that the program makes. -/
theorem record_forgets (judge : Judge) (type : TypeRef) (guard : SignatureGuard) :
    ((judge.record type guard).1, (judge.record type guard).2.1) =
      (judge.classify type).runOn guard := by
  unfold classify
  rw [Analysis.runOn_bind,
    show (get : Analysis SignatureGuard).runOn guard = (.ok guard, guard) from rfl]
  exact forgets_classifyWithin judge guard.room type guard []

end Judge

end StableTypes
