import StableTypes.Cascade.Walk
import StableTypes.Proofs.FaultingRun
import Mathlib.Data.Rat.Floor

/-!
# One visit of a walk

What a visit does is said once, for any state of the walk: it is refused, or the callable is
analyzed and then nothing more happens where the node is too deep or a cycle, or the id is put
into the set of ids visited, the callees are visited and the id is taken out again. Faults of
the queries are recovered from where they arise. So no visit fails, and every visit leaves the
set as it found it; both are proved for all visits together, by induction on the levels that
are left.
-/

namespace StableTypes

namespace CascadeSource

/-- The node of a callable without its children. -/
def bareNode (source : CascadeSource) (id : String) (depth : Nat) : CascadeNode :=
  match source.analyze id with
  | .ok (some report) => { id, depth, report, children := [] }
  | .ok none =>
    { id, depth, report := .placeholder id, children := [], error := some "callable not found" }
  | .error fault =>
    { id, depth, report := .placeholder id, children := [], error := some fault.message }

/-- The callees of a callable, each once. -/
def calleesOf (source : CascadeSource) (id : String) : List String :=
  match source.callees id with
  | .ok ids => distinct [] ids
  | .error _ => []

/-- Analyzing a callable gives its node, whether or not there is a fault. -/
theorem run_createNode (source : CascadeSource) (interruption : Interruption) (id : String)
    (depth : Nat) (state : WalkState) :
    (source.createNode interruption id depth).run.run state =
      (.ok (source.bareNode id depth), state.analyze interruption id) := by
  rw [createNode, run_tryCatch_fault, bareNode]
  rcases source.analyze id with fault | report? <;> [rfl; cases report? <;> rfl]

/-- Asking for callees gives those that are known, whether or not there is a fault. -/
theorem run_getCallees (source : CascadeSource) (interruption : Interruption) (id : String)
    (state : WalkState) :
    (source.getCallees interruption id).run.run state =
      (.ok (source.calleesOf id), state.call interruption id) := by
  rw [getCallees, run_tryCatch_fault, calleesOf]
  cases source.callees id <;> rfl

/-- A node is refused where the walk is cancelled, and visited otherwise. -/
theorem run_unlessCancelled (visit : Walk CascadeNode) (state : WalkState) :
    (unlessCancelled visit).run.run state =
      if state.cancelled || state.aborted then (.ok none, { state with cancelled := true })
      else ((visit.run.run state).1.map some, (visit.run.run state).2) := by
  have here : (get : Walk WalkState).run.run state = (.ok state, state) := rfl
  rw [unlessCancelled, run_bind_of_run here]
  split
  · rfl
  · rw [run_bind_fault]
    rcases visit.run.run state with ⟨_ | _, _⟩ <;> rfl

/-- While the callees of a callable are visited its id is in the set, and afterwards it is taken
out, whatever comes of the visits. -/
theorem run_visitCallees (source : CascadeSource) (interruption : Interruption)
    (visit : String → Walk (Option CascadeNode)) (id : String) (node : CascadeNode)
    (state : WalkState) :
    (source.visitCallees interruption visit id node).run.run state =
      let reached := (visitAll visit (source.calleesOf id)).run.run
        ((state.enter id).call interruption id)
      (reached.1.map fun (children, complete) => { node with
          children := children
          truncation :=
            if complete then node.truncation else some ⟨.cancelled, "walk cancelled"⟩ },
        reached.2.leave id) := by
  have entered : (modify (·.enter id) : Walk Unit).run.run state = (.ok (), state.enter id) := rfl
  rw [visitCallees, run_bind_of_run entered, run_tryFinally_modify,
    run_bind_of_run (run_getCallees source interruption id (state.enter id)), run_bind_fault]
  rcases (visitAll visit (source.calleesOf id)).run.run ((state.enter id).call interruption id) with
    ⟨_ | _, _⟩ <;> rfl

/-- Everything that a visit does: it is refused, or the callable is analyzed, and unless its node
is too deep or a cycle the callees are visited. -/
theorem run_visit (source : CascadeSource) (interruption : Interruption) (limit : Rat)
    (depth : Nat) (id : String) (state : WalkState) :
    (source.visit interruption limit depth id).run.run state =
      let node := source.bareNode id depth
      let begun := state.analyze interruption id
      if state.cancelled || state.aborted then (.ok none, { state with cancelled := true })
      else if limit ≤ depth then
        (.ok (some { node with
          truncation := some ⟨.maxDepth, "max depth reached (" ++ limitText limit ++ ")"⟩ }), begun)
      else if id ∈ state.visited then
        (.ok (some { node with truncation := some ⟨.cycle, "cycle detected: " ++ id⟩ }), begun)
      else
        let reached := (source.visitCallees interruption
          (source.visit interruption limit (depth + 1)) id node).run.run begun
        (reached.1.map some, reached.2) := by
  have seen : (get : Walk WalkState).run.run (state.analyze interruption id) =
    (.ok (state.analyze interruption id), state.analyze interruption id) := rfl
  have there : (state.analyze interruption id).visited.contains id = true ↔ id ∈ state.visited :=
    List.contains_iff_mem
  rw [visit, run_unlessCancelled,
    run_bind_of_run (run_createNode source interruption id depth state)]
  dsimp only
  split
  · rfl
  split
  · rfl
  rw [run_bind_of_run seen]
  simp only [there]
  split <;> rfl

/-- The limit is reached exactly where no levels are left. -/
theorem limit_le_iff (limit : Rat) (depth : Nat) :
    limit ≤ depth ↔ limit.ceil.toNat - depth = 0 := by
  rw [show (depth : Rat) = ((depth : Int) : Rat) by simp, ← Rat.ceil_le_iff]
  omega

/-- While levels are left the limit is not reached. -/
theorem not_limit_le {limit : Rat} {depth levels : Nat}
    (left : limit.ceil.toNat - depth = levels + 1) : ¬ limit ≤ depth := by
  rw [limit_le_iff, left]
  exact Nat.succ_ne_zero levels

/-- A part of a walk that never fails and leaves the set of ids visited as it found it. -/
def Restores {α : Type} (part : Walk α) : Prop :=
  ∀ state, ∃ value after, part.run.run state = (.ok value, after) ∧ after.visited = state.visited

/-- Visits one after the other restore the set if each of them does. -/
theorem restores_visitAll {visit : String → Walk (Option CascadeNode)}
    (each : ∀ id, Restores (visit id)) (ids : List String) : Restores (visitAll visit ids) := by
  induction ids with
  | nil => exact fun state => ⟨_, state, rfl, rfl⟩
  | cons id ids ih =>
    intro state
    obtain ⟨child?, between, first, kept⟩ := each id state
    rw [visitAll, run_bind_of_run first]
    cases child? with
    | none => exact ⟨_, between, rfl, kept⟩
    | some child =>
      obtain ⟨rest, after, run, kept'⟩ := ih between
      dsimp only
      rw [run_bind_of_run run]
      exact ⟨_, after, rfl, kept'.trans kept⟩

/-- No visit fails, whatever the queries answer, and every visit leaves the set of ids visited as
it found it. -/
theorem restores_visit (source : CascadeSource) (interruption : Interruption) (limit : Rat)
    (depth : Nat) (id : String) : Restores (source.visit interruption limit depth id) := by
  -- The induction is on the levels that are left.
  generalize left : limit.ceil.toNat - depth = levels
  induction levels generalizing depth id with
  | zero =>
    intro state
    have deep : limit ≤ depth := (limit_le_iff limit depth).mpr left
    rw [run_visit]
    dsimp only
    rw [if_pos deep]
    split <;> exact ⟨_, _, rfl, rfl⟩
  | succ levels ih =>
    intro state
    have shallow : ¬ limit ≤ depth := not_limit_le left
    have below : ∀ callee, Restores (source.visit interruption limit (depth + 1) callee) :=
      fun callee => ih (depth + 1) callee (by omega)
    rw [run_visit]
    dsimp only
    rw [if_neg shallow]
    split
    · exact ⟨_, _, rfl, rfl⟩
    split
    · exact ⟨_, _, rfl, rfl⟩
    next fresh =>
      obtain ⟨reached, after, run, kept⟩ := restores_visitAll below (source.calleesOf id)
        (((state.analyze interruption id).enter id).call interruption id)
      rw [run_visitCallees]
      dsimp only
      rw [run]
      refine ⟨_, _, rfl, ?_⟩
      have entered : after.visited = id :: state.visited :=
        kept.trans (List.insert_of_not_mem fresh)
      rw [WalkState.leave, entered, List.erase_cons_head]

end CascadeSource

end StableTypes
