import StableTypes.Fault

/-!
# Running computations that may fail

A computation that changes a state and may fail leaves the state as it is at a failure. So what
follows a value, what recovers from a fault and what is done at the end in any case are each run
from the state that was reached.
-/

namespace StableTypes

variable {σ α β : Type}

/-- What follows a value is run from the state where the value was reached. -/
theorem run_bind_fault (first : ExceptT Fault (StateM σ) α)
    (next : α → ExceptT Fault (StateM σ) β) (state : σ) :
    (first >>= next).run.run state =
      match first.run.run state with
      | (.ok value, after) => (next value).run.run after
      | (.error fault, after) => (.error fault, after) := by
  simp only [ExceptT.run_bind, StateT.run_bind]
  generalize StateT.run (ExceptT.run first) state = reached
  obtain ⟨result, after⟩ := reached
  cases result <;> rfl

/-- A computation that has reached a value goes on with what follows. -/
theorem run_bind_of_run {first : ExceptT Fault (StateM σ) α}
    {next : α → ExceptT Fault (StateM σ) β} {state after : σ} {value : α}
    (reached : first.run.run state = (.ok value, after)) :
    (first >>= next).run.run state = (next value).run.run after := by
  rw [run_bind_fault, reached]

/-- A fault is recovered from in the state where it was reached. -/
theorem run_tryCatch_fault (attempt : ExceptT Fault (StateM σ) α)
    (recover : Fault → ExceptT Fault (StateM σ) α) (state : σ) :
    (tryCatch attempt recover).run.run state =
      match attempt.run.run state with
      | (.ok value, after) => (.ok value, after)
      | (.error fault, after) => (recover fault).run.run after := by
  simp only [tryCatch, tryCatchThe, MonadExceptOf.tryCatch, ExceptT.tryCatch, ExceptT.run_mk,
    StateT.run_bind]
  generalize reached : StateT.run (ExceptT.run attempt) state = last
  obtain ⟨result, after⟩ := last
  rw [show StateT.run attempt state = (result, after) from reached]
  cases result <;> rfl

/-- A change at the end is made whether or not there was a fault, and keeps the result. -/
theorem run_tryFinally_modify (attempt : ExceptT Fault (StateM σ) α) (change : σ → σ)
    (state : σ) :
    (tryFinally attempt (modify change)).run.run state =
      ((attempt.run.run state).1, change (attempt.run.run state).2) := by
  generalize reached : attempt.run.run state = last
  obtain ⟨result, after⟩ := last
  replace reached : attempt state = (result, after) := reached
  simp only [tryFinally, tryFinally', ExceptT.run_map, ExceptT.run_mk, StateT.run_map,
    StateT.run_bind]
  simp only [StateT.run, reached]
  cases result <;> rfl

end StableTypes
