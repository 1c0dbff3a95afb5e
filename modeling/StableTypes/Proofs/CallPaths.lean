import StableTypes.Proofs.TreePositions
import StableTypes.Proofs.WalkStep
import Mathlib.Tactic.NormNum

/-!
# The tree of an undisturbed walk

A walk that is left alone builds one node for each path of calls from the root that is
not too long and calls nothing again before its last id. Whenever a callable is visited, the
ids in the set are exactly those of the path above it, and the depth is their number. So the
walk is a function of that path and of the levels left; everything said about a node follows
from these two. The induction is on the levels, and positions are followed from the top down.
-/

namespace StableTypes

namespace CascadeSource

variable {source : CascadeSource} {limit : Rat} {levels : Nat} {path : List String} {id : String}

/-- The ids that a callable is known to call; a query that fails knows of none. -/
def knownCallees (source : CascadeSource) (id : String) : List String :=
  match source.callees id with
  | .ok ids => ids
  | .error _ => []

/-- The first callable calls the second. -/
def Calls (source : CascadeSource) (caller callee : String) : Prop :=
  callee ∈ source.knownCallees caller

/-- A path of calls from a root. It goes at most as many calls deep as the limit, rounded
up, and only its last id may stand on it before. -/
structure IsCallPath (source : CascadeSource) (root : String) (limit : Rat)
    (path : List String) : Prop where
  /-- It begins at the root. -/
  start : path.head? = some root
  /-- Each id calls the next. -/
  calls : path.IsChain source.Calls
  /-- All ids but the last are different. -/
  distinct : path.dropLast.Nodup
  /-- The number of calls does not exceed the limit. -/
  bounded : ((path.length - 1 : Nat) : Int) ≤ limit.ceil

/-- Removing what was seen and then repetitions is the same as keeping first occurrences
among what was not seen. -/
theorem distinct_eq (seen ids : List String) :
    distinct seen ids = (ids.filter (· ∉ seen)).eraseDups := by
  induction ids generalizing seen with
  | nil => rfl
  | cons id ids ih =>
    rw [distinct]
    split
    next there => rw [ih, List.filter_cons_of_neg (by simpa using there)]
    next fresh =>
      rw [ih, List.filter_cons_of_pos (by simpa using fresh), List.eraseDups_cons,
        List.filter_filter]
      have same : ∀ other, (decide (other ∉ id :: seen)) =
          ((!other == id) && decide (other ∉ seen)) := by
        intro other
        by_cases first : other = id <;> simp [first]
      simp only [same]

/-- The callees of a callable are those it is known to call, each at its first place. -/
theorem calleesOf_eq (source : CascadeSource) (id : String) :
    source.calleesOf id = (source.knownCallees id).eraseDups := by
  unfold calleesOf knownCallees
  cases source.callees id with
  | error fault => rfl
  | ok ids =>
    change distinct [] ids = ids.eraseDups
    rw [distinct_eq, List.filter_eq_self.mpr (by simp)]

/-- No callee stands twice in a list without what was seen. -/
theorem nodup_distinct (seen ids : List String) :
    (distinct seen ids).Nodup ∧ ∀ id ∈ distinct seen ids, id ∉ seen := by
  induction ids generalizing seen with
  | nil => simp [distinct]
  | cons id ids ih =>
    rw [distinct]
    split
    · exact ih seen
    next fresh =>
      obtain ⟨nodup, unseen⟩ := ih (id :: seen)
      refine ⟨List.nodup_cons.mpr ⟨fun there => unseen id there (.head _), nodup⟩, ?_⟩
      intro other member
      rcases List.mem_cons.mp member with rfl | rest
      · exact fresh
      · exact fun there => unseen other rest (.tail _ there)

/-- The callees of a callable are different. -/
theorem nodup_calleesOf (source : CascadeSource) (id : String) : (source.calleesOf id).Nodup := by
  unfold calleesOf
  cases source.callees id with
  | error fault => exact List.nodup_nil
  | ok ids => exact (nodup_distinct [] ids).1

/-- The callees of a callable are what it calls. -/
theorem mem_calleesOf {caller callee : String} :
    callee ∈ source.calleesOf caller ↔ source.Calls caller callee := by
  rw [calleesOf_eq, List.mem_eraseDups, Calls]

/-- A limit lies between 1 and 50. -/
theorem clampDepth_bounds (depth : Number) : 1 ≤ clampDepth depth ∧ clampDepth depth ≤ 50 := by
  have most : (maxAbsoluteDepth : Rat) = 50 := rfl
  unfold clampDepth
  rw [most]
  split
  next value =>
    by_cases low : value < 1
    · rw [if_pos low]
      norm_num
    · rw [if_neg low]
      by_cases high : value < 50
      · rw [if_pos high]
        exact ⟨not_lt.mp low, le_of_lt high⟩
      · rw [if_neg high]
        norm_num
  · norm_num
  · norm_num

/-- The limit of a walk lies between 1 and 50, whatever is asked for. -/
theorem depthLimit_bounds (requested : Option Number) (default : Number) :
    1 ≤ depthLimit requested default ∧ depthLimit requested default ≤ 50 := by
  cases requested with
  | none => exact clampDepth_bounds _
  | some depth => exact clampDepth_bounds _

/-- The tree below a callable that is reached by `path`, the latest caller first, with
`levels` more levels below the limit. -/
def grow (source : CascadeSource) (limit : Rat) :
    (levels : Nat) → (path : List String) → (id : String) → CascadeNode
  | 0, path, id =>
    { source.bareNode id path.length with
      truncation := some ⟨.maxDepth, "max depth reached (" ++ limitText limit ++ ")"⟩ }
  | levels + 1, path, id =>
    if id ∈ path then
      { source.bareNode id path.length with
        truncation := some ⟨.cycle, "cycle detected: " ++ id⟩ }
    else
      { source.bareNode id path.length with
        children := (source.calleesOf id).map (source.grow limit levels (id :: path)) }

@[simp] theorem bareNode_id (depth : Nat) : (source.bareNode id depth).id = id := by
  unfold bareNode
  split <;> rfl

@[simp] theorem bareNode_depth (depth : Nat) : (source.bareNode id depth).depth = depth := by
  unfold bareNode
  split <;> rfl

@[simp] theorem bareNode_children (depth : Nat) : (source.bareNode id depth).children = [] := by
  unfold bareNode
  split <;> rfl

@[simp] theorem bareNode_truncation (depth : Nat) :
    (source.bareNode id depth).truncation = none := by
  unfold bareNode
  split <;> rfl

/-- The report and the error of a node do not depend on how deep it is. -/
theorem bareNode_label (source : CascadeSource) (id : String) (depth depth' : Nat) :
    (source.bareNode id depth).report = (source.bareNode id depth').report ∧
      (source.bareNode id depth).error = (source.bareNode id depth').error := by
  unfold bareNode
  split <;> exact ⟨rfl, rfl⟩

@[simp] theorem grow_id : (source.grow limit levels path id).id = id := by
  cases levels with
  | zero => exact bareNode_id _
  | succ levels =>
    rw [grow]
    split <;> exact bareNode_id _

@[simp] theorem grow_depth : (source.grow limit levels path id).depth = path.length := by
  cases levels with
  | zero => exact bareNode_depth _
  | succ levels =>
    rw [grow]
    split <;> exact bareNode_depth _

@[simp] theorem grow_report :
    (source.grow limit levels path id).report = (source.bareNode id path.length).report := by
  cases levels with
  | zero => rfl
  | succ levels =>
    rw [grow]
    split <;> rfl

@[simp] theorem grow_error :
    (source.grow limit levels path id).error = (source.bareNode id path.length).error := by
  cases levels with
  | zero => rfl
  | succ levels =>
    rw [grow]
    split <;> rfl

/-- The children of a node are its callees, unless no levels are left or it is a cycle. -/
theorem grow_children :
    (source.grow limit levels path id).children =
      if levels = 0 ∨ id ∈ path then []
      else (source.calleesOf id).map (source.grow limit (levels - 1) (id :: path)) := by
  cases levels with
  | zero => exact bareNode_children _
  | succ levels =>
    rw [grow]
    by_cases there : id ∈ path <;> simp [there]

/-- A node is cut short where no levels are left, or else if it is a cycle. -/
theorem grow_truncation :
    (source.grow limit levels path id).truncation.map (·.kind) =
      if levels = 0 then some .maxDepth else if id ∈ path then some .cycle else none := by
  cases levels with
  | zero => rfl
  | succ levels =>
    rw [grow]
    by_cases there : id ∈ path <;> simp [there]

/-- A walk that is left alone and has come down a path: the ids visited and not left are those of
the path, the latest first. -/
structure OnPath (path : List String) (state : WalkState) : Prop where
  /-- The set holds the ids of the path. -/
  visited : state.visited = path
  /-- The walk was not cancelled from outside. -/
  undisturbed : state.aborted = false
  /-- No node was refused. -/
  unrefused : state.cancelled = false

/-- Without an interruption a walk stays on its path while a callable is analyzed. -/
theorem OnPath.analyze {state : WalkState} (onPath : OnPath path state) (id : String) :
    OnPath path (state.analyze .never id) :=
  ⟨onPath.visited, (Bool.or_false _).trans onPath.undisturbed, onPath.unrefused⟩

/-- A new id that is visited is the latest one of the path while its callees are visited. -/
theorem OnPath.enter {state : WalkState} (onPath : OnPath path state) (fresh : id ∉ path) :
    OnPath (id :: path) ((state.enter id).call .never id) := by
  refine ⟨?_, (Bool.or_false _).trans onPath.undisturbed, onPath.unrefused⟩
  rw [WalkState.call, WalkState.enter, onPath.visited, List.insert_of_not_mem fresh]

/-- After an id is left the walk is on the path above it. -/
theorem OnPath.leave {state : WalkState} (onPath : OnPath (id :: path) state) :
    OnPath path (state.leave id) := by
  refine ⟨?_, onPath.undisturbed, onPath.unrefused⟩
  rw [WalkState.leave, onPath.visited, List.erase_cons_head]

/-- Visits that are not refused are all made. -/
theorem visitAll_calm {visit : String → Walk (Option CascadeNode)} {tree : String → CascadeNode}
    (calm : ∀ id state, OnPath path state → ∃ after, OnPath path after ∧
      (visit id).run.run state = (.ok (some (tree id)), after))
    (ids : List String) {state : WalkState} (onPath : OnPath path state) :
    ∃ after, OnPath path after ∧
      (visitAll visit ids).run.run state = (.ok (ids.map tree, true), after) := by
  induction ids generalizing state with
  | nil => exact ⟨state, onPath, rfl⟩
  | cons id ids ih =>
    obtain ⟨between, onPath', first⟩ := calm id state onPath
    obtain ⟨after, onPath'', rest⟩ := ih onPath'
    refine ⟨after, onPath'', ?_⟩
    rw [visitAll, run_bind_of_run first]
    dsimp only
    rw [run_bind_of_run rest]
    rfl

/-- A visit that is left alone, with the ids of the path in the set and their number as the depth,
grows the tree and comes back to the path. -/
theorem visit_calm (source : CascadeSource) (limit : Rat) (path : List String) (id : String)
    {state : WalkState} (onPath : OnPath path state) :
    ∃ after, OnPath path after ∧
      (source.visit .never limit path.length id).run.run state =
        (.ok (some (source.grow limit (limit.ceil.toNat - path.length) path id)), after) := by
  generalize left : limit.ceil.toNat - path.length = levels
  have running : ¬ (state.cancelled || state.aborted) = true := by
    simp [onPath.undisturbed, onPath.unrefused]
  induction levels generalizing path id state with
  | zero =>
    refine ⟨_, onPath.analyze id, ?_⟩
    rw [run_visit, grow]
    dsimp only
    rw [if_neg running, if_pos ((limit_le_iff limit path.length).mpr left)]
  | succ levels ih =>
    have shallow : ¬ limit ≤ path.length := not_limit_le left
    rw [run_visit, grow]
    dsimp only
    rw [if_neg running, if_neg shallow, onPath.visited]
    by_cases there : id ∈ path
    · rw [if_pos there, if_pos there]
      exact ⟨_, onPath.analyze id, rfl⟩
    · have below : ∀ callee state, OnPath (id :: path) state → ∃ after, OnPath (id :: path) after ∧
          (source.visit .never limit (path.length + 1) callee).run.run state =
            (.ok (some (source.grow limit levels (id :: path) callee)), after) := by
        intro callee state onPath'
        refine ih (id :: path) callee onPath' (by rw [List.length_cons]; omega) ?_
        simp [onPath'.undisturbed, onPath'.unrefused]
      obtain ⟨after, onPath', run⟩ := visitAll_calm below (source.calleesOf id)
        ((onPath.analyze id).enter there)
      refine ⟨after.leave id, onPath'.leave, ?_⟩
      rw [if_neg there, if_neg there, run_visitCallees]
      dsimp only
      rw [run]
      simp [Except.map, bareNode_truncation]

/-- A path of calls that continues `path`, the latest caller first, by at most `levels`
calls. Only an id that is not on the path yet is followed by a call. -/
inductive CallsBelow (source : CascadeSource) : Nat → List String → List String → Prop
  /-- No call follows. -/
  | last {levels : Nat} {path : List String} (id : String) : CallsBelow source levels path [id]
  /-- A new id is followed by one of its callees. -/
  | call {levels : Nat} {path : List String} {id next : String} {ids : List String} :
      id ∉ path → source.Calls id next → CallsBelow source levels (id :: path) (next :: ids) →
      CallsBelow source (levels + 1) path (id :: next :: ids)

/-- A continuation is a chain of calls that is not too long and repeats nothing before its
last id. -/
theorem callsBelow_iff {ids : List String} :
    source.CallsBelow levels path ids ↔
      ids ≠ [] ∧ ids.IsChain source.Calls ∧ ids.dropLast.Nodup ∧
        (∀ id ∈ ids.dropLast, id ∉ path) ∧ ids.length ≤ levels + 1 := by
  constructor
  · intro below
    induction below with
    | last id => simp
    | @call levels path id next ids fresh calls _ ih =>
      obtain ⟨-, chain, nodup, outside, short⟩ := ih
      have new : id ∉ (next :: ids).dropLast := fun there => outside id there (.head _)
      refine ⟨by simp, .cons_cons calls chain, ?_, ?_, by simpa using short⟩
      · rw [List.dropLast_cons_cons]
        exact List.nodup_cons.mpr ⟨new, nodup⟩
      · intro other member
        rw [List.dropLast_cons_cons] at member
        rcases List.mem_cons.mp member with rfl | rest
        · exact fresh
        · exact fun there => outside other rest (.tail _ there)
  · rintro ⟨some, chain, nodup, outside, short⟩
    induction ids generalizing levels path with
    | nil => exact absurd rfl some
    | cons id ids ih =>
      cases ids with
      | nil => exact .last id
      | cons next ids =>
        obtain ⟨calls, chain⟩ := List.isChain_cons_cons.mp chain
        rw [List.dropLast_cons_cons] at nodup outside
        obtain ⟨new, nodup⟩ := List.nodup_cons.mp nodup
        obtain ⟨levels, rfl⟩ : ∃ less, levels = less + 1 :=
          ⟨levels - 1, by simp only [List.length_cons] at short; omega⟩
        refine .call (outside id (.head _)) calls
          (ih (by simp) chain nodup ?_ (by simpa using short))
        intro other member there
        rcases List.mem_cons.mp there with rfl | before
        · exact new member
        · exact outside other (.tail _ member) before

/-- The children of a node are grown from its callees, where there are levels left and it is
no cycle. -/
theorem grow_child {index : Nat} {child : CascadeNode} :
    (source.grow limit levels path id).children[index]? = some child ↔
      ∃ less callee, levels = less + 1 ∧ id ∉ path ∧
        (source.calleesOf id)[index]? = some callee ∧
        child = source.grow limit less (id :: path) callee := by
  rw [grow_children]
  by_cases cut : levels = 0 ∨ id ∈ path
  · rw [if_pos cut]
    constructor
    · intro found
      cases found
    · rintro ⟨less, callee, rfl, fresh, -⟩
      exact absurd cut (by simp [fresh])
  · rw [if_neg cut, List.getElem?_map, Option.map_eq_some_iff]
    rw [not_or] at cut
    constructor
    · rintro ⟨callee, found, rfl⟩
      exact ⟨levels - 1, callee, by omega, cut.2, found, rfl⟩
    · rintro ⟨less, callee, rfl, -, found, rfl⟩
      exact ⟨callee, found, rfl⟩

/-- The path of every node continues the path above the tree. -/
theorem callsBelow_pathTo {position : List Nat}
    (there : position ∈ (source.grow limit levels path id).positions) :
    source.CallsBelow levels path ((source.grow limit levels path id).pathTo position) := by
  induction position generalizing levels path id with
  | nil =>
    rw [CascadeNode.pathTo_nil, grow_id]
    exact .last id
  | cons index position ih =>
    obtain ⟨child, found, inside⟩ := CascadeNode.cons_mem_positions.mp there
    rw [CascadeNode.pathTo_cons found, grow_id]
    obtain ⟨less, callee, rfl, fresh, calls, rfl⟩ := grow_child.mp found
    have below := ih inside
    obtain ⟨rest, shape⟩ :=
      CascadeNode.pathTo_eq_cons (source.grow limit less (id :: path) callee) position
    rw [grow_id] at shape
    rw [shape] at below ⊢
    exact .call fresh (mem_calleesOf.mp (List.mem_of_getElem? calls)) below

/-- Every continuation of the path above the tree is the path of a node. -/
theorem exists_position_of_callsBelow {ids : List String}
    (below : source.CallsBelow levels path (id :: ids)) :
    ∃ position ∈ (source.grow limit levels path id).positions,
      (source.grow limit levels path id).pathTo position = id :: ids := by
  induction ids generalizing levels path id with
  | nil => exact ⟨[], rfl, by rw [CascadeNode.pathTo_nil, grow_id]⟩
  | cons next ids ih =>
    cases below with
    | @call less _ _ _ _ fresh calls below =>
      obtain ⟨position, inside, ends⟩ := ih below
      obtain ⟨index, found⟩ := List.getElem?_of_mem (mem_calleesOf.mpr calls)
      have child : (source.grow limit (less + 1) path id).children[index]? =
          some (source.grow limit less (id :: path) next) :=
        grow_child.mpr ⟨less, next, rfl, fresh, found, rfl⟩
      refine ⟨index :: position, CascadeNode.cons_mem_positions.mpr ⟨_, child, inside⟩, ?_⟩
      rw [CascadeNode.pathTo_cons child, ends, grow_id]

/-- What passes from a callable to those that it calls holds of every node. -/
theorem forall_id_grow {holds : String → Prop}
    (closed : ∀ caller callee, holds caller → source.Calls caller callee → holds callee)
    (top : holds id) {position : List Nat} {node : CascadeNode}
    (reached : (source.grow limit levels path id).at? position = some node) : holds node.id := by
  induction position generalizing levels path id with
  | nil =>
    cases reached
    rwa [grow_id]
  | cons index position ih =>
    obtain ⟨child, found, below⟩ := CascadeNode.at?_cons_eq_some.mp reached
    obtain ⟨less, callee, rfl, -, calls, rfl⟩ := grow_child.mp found
    have called : source.Calls id callee := mem_calleesOf.mp (List.mem_of_getElem? calls)
    exact ih (closed id callee top called) below

/-- A node is grown from its id, the ids above it and the levels that are left for it. -/
theorem grow_at? {position : List Nat} {node : CascadeNode}
    (reached : (source.grow limit levels path id).at? position = some node) :
    position.length ≤ levels ∧
      node = source.grow limit (levels - position.length)
        (((source.grow limit levels path id).pathTo position).dropLast.reverse ++ path)
        node.id := by
  induction position generalizing levels path id with
  | nil =>
    cases reached
    simp
  | cons index position ih =>
    obtain ⟨child, found, below⟩ := CascadeNode.at?_cons_eq_some.mp reached
    rw [CascadeNode.pathTo_cons found, grow_id]
    obtain ⟨less, callee, rfl, -, -, rfl⟩ := grow_child.mp found
    obtain ⟨short, grown⟩ := ih below
    obtain ⟨rest, shape⟩ :=
      CascadeNode.pathTo_eq_cons (source.grow limit less (id :: path) callee) position
    rw [shape] at grown ⊢
    refine ⟨by simpa using short, ?_⟩
    rw [List.dropLast_cons_cons, List.reverse_cons, List.append_assoc, List.singleton_append,
      List.length_cons, Nat.add_sub_add_right]
    exact grown

end CascadeSource

/-- What a node says of its path: how deep it is, why it was cut short, and what it calls. -/
structure CascadeNode.Describes (source : CascadeSource) (limit : Rat) (path : List String)
    (node : CascadeNode) : Prop where
  /-- It stands for the last id of the path. -/
  last : path.getLast? = some node.id
  /-- Its depth is the number of calls. -/
  depth : (path.length : Rat) = node.depth + 1
  /-- It is too deep exactly where the limit is reached. -/
  maxDepth : node.truncation.map (·.kind) = some .maxDepth ↔ limit ≤ node.depth
  /-- It is a cycle exactly where the limit is not reached and its id stands before. -/
  cycle : node.truncation.map (·.kind) = some .cycle ↔
    ¬ limit ≤ node.depth ∧ node.id ∈ path.dropLast
  /-- Otherwise it is not cut short, and its children are its callees in the order in which
  they are first named. -/
  called : ¬ limit ≤ node.depth → node.id ∉ path.dropLast → node.truncation = none ∧
    node.children.map (·.id) = (source.knownCallees node.id).eraseDups

namespace CascadeSource

variable {source : CascadeSource} {root : String} {limit : Rat}

/-- The tree of an undisturbed walk. -/
def fullTree (source : CascadeSource) (root : String) (limit : Rat) : CascadeNode :=
  source.grow limit limit.ceil.toNat [] root

/-- The paths that continue nothing by as many calls as the limit allows are the paths of
calls from the root. -/
theorem isCallPath_iff (above : 1 ≤ limit) {path : List String} :
    source.IsCallPath root limit path ↔
      path.head? = some root ∧ source.CallsBelow limit.ceil.toNat [] path := by
  have positive : 0 ≤ limit.ceil := by
    have : (1 : Rat) ≤ limit.ceil := above.trans Rat.le_ceil
    have : (1 : Int) ≤ limit.ceil := by exact_mod_cast this
    omega
  rw [callsBelow_iff]
  constructor
  · intro isPath
    have some : path ≠ [] := by
      rintro rfl
      cases isPath.start
    have bounded := isPath.bounded
    exact ⟨isPath.start, some, isPath.calls, isPath.distinct, by simp, by omega⟩
  · rintro ⟨start, some, calls, distinct, -, bounded⟩
    exact ⟨start, calls, distinct, by omega⟩

/-- A node of the full tree is grown from its id, the ids above it and the levels left. -/
theorem fullTree_at? {position : List Nat} {node : CascadeNode}
    (reached : (source.fullTree root limit).at? position = some node) :
    node = source.grow limit (limit.ceil.toNat - position.length)
      ((source.fullTree root limit).pathTo position).dropLast.reverse node.id := by
  have grown := (grow_at? reached).2
  rw [List.append_nil] at grown
  exact grown

/-- A node of the full tree has the report and the error of its id. -/
theorem fullTree_label {position : List Nat} {node : CascadeNode}
    (reached : (source.fullTree root limit).at? position = some node) (depth : Nat) :
    node.report = (source.bareNode node.id depth).report ∧
      node.error = (source.bareNode node.id depth).error := by
  have grown := fullTree_at? reached
  have report : node.report = _ := (congrArg CascadeNode.report grown).trans grow_report
  have error : node.error = _ := (congrArg CascadeNode.error grown).trans grow_error
  obtain ⟨sameReport, sameError⟩ := bareNode_label source node.id
    ((source.fullTree root limit).pathTo position).dropLast.reverse.length depth
  exact ⟨report.trans sameReport, error.trans sameError⟩

/-- The siblings of the full tree have different ids. -/
theorem nodup_children_fullTree {position : List Nat} {node : CascadeNode}
    (reached : (source.fullTree root limit).at? position = some node) :
    (node.children.map (·.id)).Nodup := by
  rw [fullTree_at? reached, grow_children]
  split
  · exact List.nodup_nil
  · rw [List.map_map]
    simpa [Function.comp_def] using nodup_calleesOf source _

/-- The paths of the nodes of the full tree are the paths of calls from the root, and no two
nodes have the same path. -/
theorem bijOn_pathTo_fullTree (above : 1 ≤ limit) :
    Set.BijOn (source.fullTree root limit).pathTo (source.fullTree root limit).positions
      {path | source.IsCallPath root limit path} := by
  refine ⟨?_, CascadeNode.injOn_pathTo fun _ _ => nodup_children_fullTree, ?_⟩
  · intro position there
    refine (isCallPath_iff above).mpr ⟨?_, callsBelow_pathTo there⟩
    obtain ⟨rest, shape⟩ := CascadeNode.pathTo_eq_cons (source.fullTree root limit) position
    rw [shape, fullTree, grow_id]
    rfl
  · intro path isPath
    obtain ⟨start, below⟩ := (isCallPath_iff above).mp isPath
    cases path with
    | nil => cases start
    | cons id ids =>
      cases start
      exact exists_position_of_callsBelow below

/-- Each node of the full tree describes its path. -/
theorem describes_fullTree {position : List Nat} {node : CascadeNode}
    (reached : (source.fullTree root limit).at? position = some node) :
    node.Describes source limit ((source.fullTree root limit).pathTo position) := by
  obtain ⟨length, last⟩ := CascadeNode.pathTo_at? reached
  have grown := fullTree_at? reached
  have depth : node.depth = position.length := by
    rw [grown, grow_depth, List.length_reverse, List.length_dropLast, length, Nat.add_sub_cancel]
  have kind : node.truncation.map (·.kind) = if limit ≤ node.depth then some .maxDepth
      else if node.id ∈ ((source.fullTree root limit).pathTo position).dropLast then some .cycle
      else none := by
    have given := (congrArg (fun node => node.truncation.map (·.kind)) grown).trans grow_truncation
    simpa only [← depth, ← limit_le_iff, List.mem_reverse] using given
  have children := (congrArg CascadeNode.children grown).trans grow_children
  simp only [← depth, ← limit_le_iff, List.mem_reverse] at children
  have long : (((source.fullTree root limit).pathTo position).length : Rat) = node.depth + 1 := by
    rw [depth, length, Nat.cast_succ]
  by_cases deep : limit ≤ node.depth
  · rw [if_pos deep] at kind
    exact ⟨last, long, by simp [kind, deep], by simp [kind, deep],
      fun shallow => absurd deep shallow⟩
  · rw [if_neg deep] at kind
    by_cases there : node.id ∈ ((source.fullTree root limit).pathTo position).dropLast
    · rw [if_pos there] at kind
      exact ⟨last, long, by simp [kind, deep], by simp [kind, deep, there],
        fun _ fresh => absurd there fresh⟩
    · rw [if_neg there] at kind
      refine ⟨last, long, by simp [kind, deep], by simp [kind, there], fun _ _ => ⟨?_, ?_⟩⟩
      · exact Option.map_eq_none_iff.mp kind
      · rw [children, if_neg (not_or.mpr ⟨deep, there⟩), List.map_map, ← calleesOf_eq]
        simp [Function.comp_def]

/-- No node of the full tree is marked as cancelled, and none with children is cut short. -/
theorem truncation_fullTree {position : List Nat} {node : CascadeNode}
    (reached : (source.fullTree root limit).at? position = some node) :
    node.truncation.map (·.kind) ≠ some .cancelled ∧
      (node.children ≠ [] → node.truncation = none) := by
  rw [fullTree_at? reached]
  constructor
  · rw [grow_truncation]
    split
    · nofun
    · split <;> nofun
  · intro parent
    rw [grow_children] at parent
    split at parent
    · exact absurd rfl parent
    next notCut =>
      rw [not_or] at notCut
      refine Option.map_eq_none_iff.mp (grow_truncation.trans ?_)
      rw [if_neg notCut.1, if_neg notCut.2]

/-- An undisturbed walk visits all of the full tree. -/
theorem walk_calm (source : CascadeSource) (root : String) (requested : Option Number)
    (default : Number) :
    source.walk root requested default .never =
      .ok ⟨some (source.fullTree root (depthLimit requested default)), true⟩ := by
  have start : OnPath [] (.start Interruption.never.atOnce) := ⟨rfl, rfl, rfl⟩
  obtain ⟨after, onPath, run⟩ := visit_calm source (depthLimit requested default) [] root start
  rw [List.length_nil] at run
  rw [walk, run]
  dsimp only
  rw [onPath.unrefused]
  rfl

end CascadeSource

/-- A walk that is left alone does not fail and visits every callable it should. Its limit lies
between 1 and 50. The nodes of its tree are the paths of calls from the root, each path once, and
every node describes its path. -/
theorem walk_visits_call_paths (source : CascadeSource) (root : String) (requested : Option Number)
    (default : Number) :
    ∃ limit tree, limit = CascadeSource.depthLimit requested default ∧ 1 ≤ limit ∧ limit ≤ 50 ∧
      source.walk root requested default .never = .ok ⟨some tree, true⟩ ∧
      Set.BijOn tree.pathTo tree.positions {path | source.IsCallPath root limit path} ∧
      ∀ position node, tree.at? position = some node →
        node.Describes source limit (tree.pathTo position) := by
  obtain ⟨least, most⟩ := CascadeSource.depthLimit_bounds requested default
  exact ⟨_, _, rfl, least, most, CascadeSource.walk_calm source root requested default,
    CascadeSource.bijOn_pathTo_fullTree least, fun _ _ => CascadeSource.describes_fullTree⟩

end StableTypes
