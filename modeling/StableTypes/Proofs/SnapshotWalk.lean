import StableTypes.Proofs.CallableOutcome
import StableTypes.Proofs.SnapshotGraph

/-!
# Walking the calls of a snapshot

The callees of a callable that count are callables of the snapshot, and analyzing a
callable of the snapshot never fails. So a walk that starts at a callable of the snapshot
stays within the snapshot, and every node carries the report that its callable has on its
own, wherever in the tree it stands. From an id that is not in the snapshot no call leads
anywhere.
-/

namespace StableTypes

/-- The ids of the callables in a snapshot, one for each entry. -/
def Snapshot.callableIds (snapshot : Snapshot) : List String := snapshot.callables.map (·.id)

namespace ProgramModel

variable {snapshot : Snapshot} {id : String}

/-- The callables that are known are those of the snapshot. -/
theorem isSome_callable?_iff :
    ((ofSnapshot snapshot).callable? id).isSome ↔ id ∈ snapshot.callableIds := by
  unfold callable? ofSnapshot
  rw [Table.isSome_get?_ofList, List.map_map]
  rfl

/-- Every callee is a callable of the snapshot. -/
theorem mem_callableIds_of_callee {callee : String}
    (called : callee ∈ (ofSnapshot snapshot).callees id) :
    callee ∈ snapshot.callableIds :=
  isSome_callable?_iff.mp (List.mem_filter.mp called).2

/-- Only callables of the snapshot have callees. -/
theorem callees_eq_nil (unknown : id ∉ snapshot.callableIds) :
    (ofSnapshot snapshot).callees id = [] := by
  have noCalls : Table.get? id (ofSnapshot snapshot).calls = none := by
    rw [← Option.not_isSome_iff_eq_none]
    unfold ofSnapshot
    rw [Table.isSome_get?_ofList, List.map_map]
    exact unknown
  rw [callees, noCalls]
  rfl

end ProgramModel

namespace CascadeSource

variable {snapshot : Snapshot} {catalog : Catalog} {policy : Policy} {id : String}

/-- What a walk over the callables of a snapshot asks for. -/
def ofSnapshot (snapshot : Snapshot) (catalog : Catalog) (policy : Policy) : CascadeSource :=
  ofJudge (.ofSnapshot snapshot catalog policy) (ProgramModel.ofSnapshot snapshot).callModel

/-- A callable of a snapshot can be analyzed, and its node has no error. -/
theorem bareNode_ofSnapshot (known : id ∈ snapshot.callableIds) (depth : Nat) :
    ((ofSnapshot snapshot catalog policy).bareNode id depth).error = none ∧
      (ofSnapshot snapshot catalog policy).analyze id =
        .ok (some ((ofSnapshot snapshot catalog policy).bareNode id depth).report) := by
  obtain ⟨callable, found⟩ := Option.isSome_iff_exists.mp
    (ProgramModel.isSome_callable?_iff.mpr known)
  have resolved : (ProgramModel.ofSnapshot snapshot).callModel.resolveCallable id =
      .ok (some callable) := congrArg Except.ok found
  have analyzed : (ofSnapshot snapshot catalog policy).analyze id = _ :=
    Judge.analyzeCallable_eq _ _ id
  rw [analyzed, ofSnapshot, bareNode_ofJudge, resolved]
  exact ⟨rfl, rfl⟩

/-- A walk from an id that is not in the snapshot comes to nothing else. -/
theorem fullTree_ofSnapshot {limit : Rat} (above : 1 ≤ limit)
    (unknown : id ∉ snapshot.callableIds) :
    (ofSnapshot snapshot catalog policy).fullTree id limit =
      { id, depth := 0, report := .placeholder id, children := [],
        error := some "callable not found" } := by
  have noCallable : (ProgramModel.ofSnapshot snapshot).callable? id = none := by
    rw [← Option.not_isSome_iff_eq_none, ProgramModel.isSome_callable?_iff]
    exact unknown
  have resolved : (ProgramModel.ofSnapshot snapshot).callModel.resolveCallable id = .ok none :=
    congrArg Except.ok noCallable
  have noCallees : (ofSnapshot snapshot catalog policy).calleesOf id = [] := by
    have none' : (ofSnapshot snapshot catalog policy).callees id = .ok [] :=
      congrArg Except.ok (ProgramModel.callees_eq_nil unknown)
    rw [calleesOf, none']
    rfl
  obtain ⟨levels, positive⟩ : ∃ levels, limit.ceil.toNat = levels + 1 := by
    have one : (1 : Rat) ≤ limit.ceil := above.trans Rat.le_ceil
    have one' : (1 : Int) ≤ limit.ceil := by exact_mod_cast one
    exact ⟨limit.ceil.toNat - 1, by omega⟩
  rw [fullTree, positive, grow, if_neg List.not_mem_nil, noCallees, ofSnapshot, bareNode_ofJudge,
    resolved]
  rfl

end CascadeSource

open CascadeSource in
/-- A walk from a callable of a snapshot meets only callables of the snapshot, none with an error,
and every node has the report that analyzing its callable alone gives; so nodes with one id have
one report. A walk from any other id gives a single node, which says that there is no such
callable. -/
theorem snapshot_walk_is_closed (snapshot : Snapshot) (catalog : Catalog) (policy : Policy)
    (root : String) (requested : Option Number) (default : Number) :
    ∃ tree, (CascadeSource.ofSnapshot snapshot catalog policy).walk root requested default
        .never = .ok ⟨some tree, true⟩ ∧
      (root ∈ snapshot.callableIds → ∀ position node, tree.at? position = some node →
        node.id ∈ snapshot.callableIds ∧ node.error = none ∧
        (Judge.ofSnapshot snapshot catalog policy).analyzeCallable
          (ProgramModel.ofSnapshot snapshot).callModel node.id = .ok (some node.report)) ∧
      (∀ position node position' node', tree.at? position = some node →
        tree.at? position' = some node' → node.id = node'.id → node.report = node'.report) ∧
      (root ∉ snapshot.callableIds → tree =
        { id := root, depth := 0, report := .placeholder root, children := [],
          error := some "callable not found", truncation := none }) := by
  refine ⟨_, walk_calm _ root requested default, ?_, ?_, ?_⟩
  · intro known position node reached
    have inside : node.id ∈ snapshot.callableIds := by
      refine forall_id_grow (fun caller callee _ called => ?_) known reached
      exact ProgramModel.mem_callableIds_of_callee called
    obtain ⟨report, error⟩ := fullTree_label reached 0
    obtain ⟨fine, analyzed⟩ := bareNode_ofSnapshot inside 0
    rw [← report] at analyzed
    exact ⟨inside, error.trans fine, analyzed⟩
  · intro position node position' node' reached reached' same
    rw [(fullTree_label reached 0).1, (fullTree_label reached' 0).1, same]
  · exact fullTree_ofSnapshot (depthLimit_bounds requested default).1

end StableTypes
