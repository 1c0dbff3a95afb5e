import StableTypes.Proofs.CallPaths
import StableTypes.Proofs.TreePrefix
import StableTypes.Proofs.TreeSummary

/-!
# The tree of an interrupted walk

A walk that is cancelled visits the nodes of the undisturbed walk in the same order and
stops at one of them. Its state is known from the path that it has come down and from two
numbers: the moment at which it is cancelled, counted in nodes, and how many nodes the
undisturbed walk has passed by then. A node has two occasions to be cancelled at, while its
callable is analyzed and while its callees are asked for; both come before the next node. The
induction is on the levels, as for the undisturbed walk. For the callees of a callable the two
numbers say how many nodes may still be kept, which is what a cut tree hands on from child to
child.
-/

namespace StableTypes

namespace Interruption

/-- The walk is cancelled at a node with the given number: while its callable is analyzed, or
while its callees are asked for, which is done unless the branch is cut short. -/
def during (interruption : Interruption) (ordinal : Nat) (node : CascadeNode) : Bool :=
  interruption.analyzing ordinal node.id ||
    (node.truncation.isNone && interruption.calling ordinal node.id)

/-- When a walk is cancelled that comes to the given nodes, in this order: the number of nodes
that it has begun to visit by then. It is zero if the walk is cancelled before it begins, and
greater than the number of nodes if the walk is left alone. -/
def moment (interruption : Interruption) (nodes : List CascadeNode) : Nat :=
  if interruption.atOnce then 0
  else nodes.zipIdx.findIdx (fun (node, ordinal) => interruption.during ordinal node) + 1

/-- At the given nodes, of which the first one has the number `passed`, the walk is cancelled if
this is its moment, and not before. -/
def FiresAt (interruption : Interruption) (moment passed : Nat) (nodes : List CascadeNode) : Prop :=
  ∀ offset node, nodes[offset]? = some node → passed + offset < moment →
    interruption.during (passed + offset) node = decide (moment ≤ passed + offset + 1)

variable {interruption : Interruption} {moment passed : Nat}

/-- The moment of a walk is when it is cancelled. -/
theorem firesAt_moment (interruption : Interruption) (nodes : List CascadeNode) :
    interruption.FiresAt (interruption.moment nodes) 0 nodes := by
  intro offset node there early
  rw [Nat.zero_add] at early ⊢
  rw [Interruption.moment] at early ⊢
  split at early
  · omega
  next later =>
    rw [if_neg later]
    obtain ⟨short, same⟩ := List.getElem?_eq_some_iff.mp there
    have inside : offset < nodes.zipIdx.length := by rwa [List.length_zipIdx]
    have entry : nodes.zipIdx[offset] = (node, offset) := by
      rw [List.getElem_zipIdx, same, Nat.zero_add]
    rcases Nat.lt_succ_iff_lt_or_eq.mp early with before | now
    · have quiet := List.not_of_lt_findIdx before
      rw [entry] at quiet
      rw [show interruption.during offset node = false by simpa using quiet, eq_comm,
        decide_eq_false_iff_not]
      omega
    · subst now
      have fires := List.findIdx_getElem (w := inside)
      rw [entry] at fires
      rw [show interruption.during _ node = true from fires, eq_comm, decide_eq_true_iff]

/-- For nodes one after the other the moment is the same. -/
theorem FiresAt.append {nodes later : List CascadeNode}
    (fires : interruption.FiresAt moment passed (nodes ++ later)) :
    interruption.FiresAt moment passed nodes ∧
      interruption.FiresAt moment (passed + nodes.length) later := by
  constructor
  · intro offset node there early
    refine fires offset node ?_ early
    rw [List.getElem?_append_left (List.getElem?_eq_some_iff.mp there).1]
    exact there
  · intro offset node there early
    have place : (nodes ++ later)[nodes.length + offset]? = some node := by
      rw [List.getElem?_append_right (Nat.le_add_right _ _), Nat.add_sub_cancel_left]
      exact there
    rw [Nat.add_assoc] at early ⊢
    exact fires (nodes.length + offset) node place early

/-- Nodes with the same ids that are cut short alike have the same moment. -/
theorem moment_map {change : CascadeNode → CascadeNode}
    (same : ∀ node, (change node).id = node.id ∧ (change node).truncation = node.truncation)
    (nodes : List CascadeNode) :
    interruption.moment (nodes.map change) = interruption.moment nodes := by
  have alike : ∀ ordinal node, interruption.during ordinal (change node) =
      interruption.during ordinal node := by
    intro ordinal node
    rw [during, during, (same node).1, (same node).2]
  rw [moment, moment, List.zipIdx_map, List.findIdx_map]
  simp only [Function.comp_def, Prod.map, alike, id_eq]

end Interruption

/-- The state of a walk that has come down a path and is cancelled at `moment`, when the
undisturbed walk has passed `passed` nodes. -/
def WalkState.after (path : List String) (moment passed : Nat) : WalkState :=
  ⟨path, min moment passed, decide (moment ≤ passed), decide (moment < passed)⟩

namespace WalkState

variable {interruption : Interruption} {path : List String} {moment passed : Nat} {id : String}

/-- Before its moment a walk goes on. -/
theorem running_after (early : passed < moment) :
    ¬ ((after path moment passed).cancelled || (after path moment passed).aborted) = true := by
  simp only [after, Bool.or_eq_true, decide_eq_true_eq]
  omega

/-- From its moment on a walk refuses every node. -/
theorem stopped_after (late : moment ≤ passed) :
    ((after path moment passed).cancelled || (after path moment passed).aborted) = true := by
  simp [after, late]

/-- A refusal is noted, however many nodes are refused. -/
theorem refused_after (late : moment ≤ passed) {more : Nat} (positive : 0 < more) :
    { after path moment passed with cancelled := true } = after path moment (passed + more) := by
  rw [after, after, WalkState.mk.injEq]
  dsimp only
  refine ⟨rfl, by omega, ?_, ?_⟩
  · rw [decide_eq_true late, decide_eq_true (Nat.le_add_right_of_le late)]
  · rw [decide_eq_true (by omega : moment < passed + more)]

/-- From its moment on the state of a walk does not change any more, but for the note that a
node was refused. -/
theorem after_add (late : moment ≤ passed) {more more' : Nat} (positive : 0 < more)
    (positive' : 0 < more') :
    after path moment (passed + more) = after path moment (passed + more') :=
  (refused_after late positive).symm.trans (refused_after late positive')

/-- What happens at a node before the moment is one more node passed, and may be the moment. -/
theorem after_succ (early : passed < moment) {fires : Bool}
    (now : fires = decide (moment ≤ passed + 1)) :
    ⟨path, min moment passed + 1, decide (moment ≤ passed) || fires, decide (moment < passed)⟩ =
      after path moment (passed + 1) := by
  rw [after, WalkState.mk.injEq, now]
  refine ⟨rfl, by omega, ?_, ?_⟩
  · rw [decide_eq_false (by omega), Bool.false_or]
  · rw [decide_eq_false (by omega), decide_eq_false (by omega)]

/-- A callable whose callees are not asked for is analyzed before the moment, which may be while
it is. -/
theorem analyze_after (early : passed < moment)
    (now : interruption.analyzing passed id = decide (moment ≤ passed + 1)) :
    (after path moment passed).analyze interruption id = after path moment (passed + 1) := by
  rw [← after_succ early now, analyze, after, Nat.min_eq_right (Nat.le_of_lt early)]

/-- A callable is analyzed and its callees are asked for before the moment, which may be while
either is done. -/
theorem call_after (early : passed < moment) (fresh : id ∉ path)
    (now : (interruption.analyzing passed id || interruption.calling passed id) =
      decide (moment ≤ passed + 1)) :
    ((((after path moment passed).analyze interruption id).enter id).call interruption id) =
      after (id :: path) moment (passed + 1) := by
  rw [← after_succ early now, call, enter, analyze, after, Nat.min_eq_right (Nat.le_of_lt early)]
  dsimp only
  rw [List.insert_of_not_mem fresh, Nat.add_sub_cancel, Bool.or_assoc]

/-- After an id is left the walk is on the path above it. -/
theorem leave_after :
    (after (id :: path) moment passed).leave id = after path moment passed := by
  rw [leave, after, after, List.erase_cons_head]

end WalkState

namespace CascadeSource

variable {source : CascadeSource} {interruption : Interruption} {limit : Rat}
  {path : List String} {moment passed : Nat} {id : String}

/-- A visit begun on a path when the undisturbed walk has passed `passed` nodes gives what is left
of the tree, if the moment has not come, and the state is that of having passed all of it. -/
def VisitsCut (interruption : Interruption) (moment : Nat) (path : List String)
    (visit : Walk (Option CascadeNode)) (tree : CascadeNode) : Prop :=
  ∀ passed, interruption.FiresAt moment passed tree.nodes →
    visit.run.run (.after path moment passed) =
      (.ok (if passed < moment then some (tree.cut (moment - passed - 1)) else none),
        .after path moment (passed + tree.size))

/-- Visits in order keep of their trees as many nodes as there are before the moment. -/
theorem visitAll_interrupted {visit : String → Walk (Option CascadeNode)}
    {tree : String → CascadeNode}
    (each : ∀ id, VisitsCut interruption moment path (visit id) (tree id)) (ids : List String)
    (fires : interruption.FiresAt moment passed (CascadeNode.nodesAll (ids.map tree))) :
    (visitAll visit ids).run.run (.after path moment passed) =
      (.ok (CascadeNode.cutAll (moment - passed) (ids.map tree),
          decide ((CascadeNode.cutAll (moment - passed) (ids.map tree)).length = ids.length)),
        .after path moment (passed + CascadeNode.sizeAll (ids.map tree))) := by
  induction ids generalizing passed with
  | nil => rfl
  | cons id ids ih =>
    rw [List.map_cons, CascadeNode.nodesAll] at fires
    obtain ⟨first, rest⟩ := fires.append
    rw [CascadeNode.length_nodes] at rest
    rw [visitAll, run_bind_of_run (each id passed first), List.map_cons, CascadeNode.sizeAll]
    by_cases early : passed < moment
    · obtain ⟨count, left⟩ : ∃ count, moment - passed = count + 1 :=
        ⟨moment - passed - 1, by omega⟩
      have remaining : moment - (passed + (tree id).size) = count + 1 - (tree id).size := by omega
      rw [if_pos early]
      dsimp only
      rw [run_bind_of_run (ih rest), remaining, left, CascadeNode.cutAll_succ,
        Nat.add_sub_cancel, List.length_cons, List.length_cons, Nat.add_assoc]
      simp only [Nat.add_right_cancel_iff]
      rfl
    · have late : moment ≤ passed := Nat.le_of_not_lt early
      rw [if_neg early, Nat.sub_eq_zero_of_le late, CascadeNode.cutAll_zero,
        WalkState.after_add late
          (Nat.add_pos_left (tree id).size_pos (CascadeNode.sizeAll (ids.map tree)))
          (tree id).size_pos]
      rfl

/-- Before the moment a branch that is cut short is kept whole. -/
theorem leaf_interrupted {leaf : CascadeNode} (path : List String)
    (childless : leaf.children = []) (short : leaf.truncation.isNone = false)
    (early : passed < moment) (fires : interruption.FiresAt moment passed leaf.nodes) :
    leaf.cut (moment - passed - 1) = leaf ∧
      (WalkState.after path moment passed).analyze interruption leaf.id =
        .after path moment (passed + leaf.size) := by
  have single : leaf.nodes = [leaf] := by
    rw [CascadeNode.nodes_eq, childless, CascadeNode.nodesAll]
  have one : leaf.size = 1 := by
    rw [CascadeNode.size_eq, childless, CascadeNode.sizeAll]
  have now := fires 0 leaf (by rw [single]; rfl) early
  rw [Interruption.during, short, Bool.false_and, Bool.or_false] at now
  rw [one]
  exact ⟨CascadeNode.cut_of_childless childless _, WalkState.analyze_after early now⟩

/-- Before the moment a node keeps of its branches as many nodes as there are before it, and its id
is left again. -/
theorem visitCallees_interrupted {visit : String → Walk (Option CascadeNode)}
    {tree : String → CascadeNode} {node : CascadeNode}
    (each : ∀ callee, VisitsCut interruption moment (id :: path) (visit callee) (tree callee))
    (same : node.id = id) (unmarked : node.truncation = none) (fresh : id ∉ path)
    (early : passed < moment)
    (fires : interruption.FiresAt moment passed
      { node with children := (source.calleesOf id).map tree }.nodes) :
    (source.visitCallees interruption visit id node).run.run
        ((WalkState.after path moment passed).analyze interruption id) =
      (.ok ({ node with children := (source.calleesOf id).map tree }.cut (moment - passed - 1)),
        .after path moment
          (passed + { node with children := (source.calleesOf id).map tree }.size)) := by
  rw [CascadeNode.nodes_eq, ← List.singleton_append] at fires
  obtain ⟨top, inside⟩ := fires.append
  have now := top 0 _ rfl early
  rw [Interruption.during, unmarked, same, Option.isNone_none, Bool.true_and] at now
  have run := visitAll_interrupted each (source.calleesOf id) inside
  have left : moment - (passed + 1) = moment - passed - 1 := by omega
  rw [List.length_singleton, left] at run
  rw [run_visitCallees, WalkState.call_after early fresh now]
  dsimp only
  rw [run, CascadeNode.cut_eq, CascadeNode.size_eq, Nat.add_assoc, Nat.add_comm 1, unmarked]
  dsimp only
  rw [WalkState.leave_after, List.length_map]
  simp only [Except.map, decide_eq_true_eq]
  rfl

/-- A visit cuts a tree if it does so before the moment; from then on every visit is refused. -/
theorem visitsCut_of_before {tree : CascadeNode}
    (before : ∀ passed, passed < moment → interruption.FiresAt moment passed tree.nodes →
      (source.visit interruption limit path.length id).run.run (.after path moment passed) =
        (.ok (some (tree.cut (moment - passed - 1))), .after path moment (passed + tree.size))) :
    VisitsCut interruption moment path (source.visit interruption limit path.length id) tree := by
  intro passed fires
  by_cases early : passed < moment
  · rw [if_pos early]
    exact before passed early fires
  · have late : moment ≤ passed := Nat.le_of_not_lt early
    rw [if_neg early, run_visit]
    dsimp only
    rw [if_pos (WalkState.stopped_after late), WalkState.refused_after late tree.size_pos]

/-- A visit keeps of the tree of the undisturbed walk as many nodes as there are before the
moment. -/
theorem visit_interrupted (source : CascadeSource) (interruption : Interruption) (limit : Rat)
    (moment : Nat) (path : List String) (id : String) :
    VisitsCut interruption moment path (source.visit interruption limit path.length id)
      (source.grow limit (limit.ceil.toNat - path.length) path id) := by
  generalize left : limit.ceil.toNat - path.length = levels
  induction levels generalizing path id with
  | zero =>
    refine visitsCut_of_before fun passed early fires => ?_
    obtain ⟨whole, state⟩ := leaf_interrupted path
      (by rw [grow]; exact bareNode_children _) (by rw [grow]; rfl) early fires
    rw [grow_id] at state
    rw [run_visit, whole, ← state, grow]
    dsimp only
    rw [if_neg (WalkState.running_after early), if_pos ((limit_le_iff limit path.length).mpr left)]
  | succ levels ih =>
    have shallow : ¬ limit ≤ path.length := not_limit_le left
    refine visitsCut_of_before fun passed early fires => ?_
    have visited : (WalkState.after path moment passed).visited = path := rfl
    by_cases there : id ∈ path
    · have cycle : source.grow limit (levels + 1) path id =
          { source.bareNode id path.length with
            truncation := some ⟨.cycle, "cycle detected: " ++ id⟩ } := by
        rw [grow, if_pos there]
      obtain ⟨whole, state⟩ := leaf_interrupted path
        (by rw [cycle]; exact bareNode_children _) (by rw [cycle]; rfl) early fires
      rw [grow_id] at state
      rw [run_visit, whole, ← state, cycle]
      dsimp only
      rw [if_neg (WalkState.running_after early), if_neg shallow, visited, if_pos there]
    · have branch : source.grow limit (levels + 1) path id =
          { source.bareNode id path.length with
            children := (source.calleesOf id).map (source.grow limit levels (id :: path)) } := by
        rw [grow, if_neg there]
      have below : ∀ callee, VisitsCut interruption moment (id :: path)
          (source.visit interruption limit (path.length + 1) callee)
          (source.grow limit levels (id :: path) callee) :=
        fun callee => ih (id :: path) callee (by rw [List.length_cons]; omega)
      rw [branch] at fires
      have run := visitCallees_interrupted below (bareNode_id _) (bareNode_truncation _) there early
        fires
      rw [run_visit, branch]
      dsimp only
      rw [if_neg (WalkState.running_after early), if_neg shallow, visited, if_neg there, run]
      rfl

/-- The state in which a walk ends. -/
def lastState (source : CascadeSource) (root : String) (requested : Option Number)
    (default : Number) (interruption : Interruption) : WalkState :=
  ((source.visit interruption (depthLimit requested default) 0 root).run.run
    (.start interruption.atOnce)).2

/-- A walk gives the full tree cut at its moment, and has then analyzed as many callables as the
full tree has nodes before it. -/
theorem walk_interrupted (source : CascadeSource) (root : String) (requested : Option Number)
    (default : Number) (interruption : Interruption) {whole : CascadeNode}
    (full : whole = source.fullTree root (depthLimit requested default))
    (cancelled : moment = interruption.moment whole.nodes) :
    source.walk root requested default interruption =
        .ok ⟨if 0 < moment then some (whole.cut (moment - 1)) else none,
          decide (whole.size ≤ moment)⟩ ∧
      source.lastState root requested default interruption = .after [] moment whole.size := by
  have fires := interruption.firesAt_moment whole.nodes
  rw [← cancelled, full] at fires
  have start : WalkState.start interruption.atOnce = .after [] moment 0 := by
    rw [WalkState.start, WalkState.after, WalkState.mk.injEq, Nat.min_zero]
    refine ⟨rfl, rfl, ?_, rfl⟩
    rw [cancelled, Interruption.moment]
    cases interruption.atOnce <;> simp
  have run := visit_interrupted source interruption (depthLimit requested default) moment [] root 0
    fires
  simp only [List.length_nil, Nat.sub_zero, Nat.zero_add] at run
  rw [← fullTree, ← full] at run
  have all : (!decide (moment < whole.size)) = decide (whole.size ≤ moment) := by
    rw [← decide_not, decide_eq_decide, Nat.not_lt]
  constructor
  · rw [walk, start, run, ← all]
    rfl
  · rw [lastState, start, run]

/-- A walk, cancelled or not, comes to a result. -/
theorem exists_walk (source : CascadeSource) (root : String) (requested : Option Number)
    (default : Number) (interruption : Interruption) :
    ∃ result, source.walk root requested default interruption = .ok result :=
  ⟨_, (walk_interrupted source root requested default interruption rfl rfl).1⟩

/-- Every node of a walk, cancelled or not, stands in the full tree, but may have lost children. -/
theorem exists_full_of_walk {root : String} {requested : Option Number} {default : Number}
    {result : CascadeResult} {tree node : CascadeNode} {position : List Nat}
    (walked : source.walk root requested default interruption = .ok result)
    (begun : result.root = some tree) (reached : tree.at? position = some node) :
    ∃ full more, (source.fullTree root (depthLimit requested default)).at? position = some full ∧
      node = full.cut more := by
  have given := (walk_interrupted source root requested default interruption rfl rfl).1
  obtain rfl := Except.ok.inj (walked.symm.trans given)
  dsimp only at begun
  split at begun
  · cases begun
    exact CascadeNode.at?_cut reached
  · cases begun

/-- Every node of a walk, cancelled or not, has the report and the error of its id. -/
theorem walk_label {root : String} {requested : Option Number} {default : Number}
    {result : CascadeResult} {tree node : CascadeNode} {position : List Nat}
    (walked : source.walk root requested default interruption = .ok result)
    (begun : result.root = some tree) (reached : tree.at? position = some node) (depth : Nat) :
    node.report = (source.bareNode node.id depth).report ∧
      node.error = (source.bareNode node.id depth).error := by
  obtain ⟨full, more, there, rfl⟩ := exists_full_of_walk walked begun reached
  rw [CascadeNode.cut_report, CascadeNode.cut_error, CascadeNode.cut_id]
  exact fullTree_label there depth

end CascadeSource

/-- What a walk gives that is cancelled at `moment`, where the undisturbed walk gives `whole`. -/
structure CascadeResult.LeftOf (whole : CascadeNode) (moment : Nat) (result : CascadeResult) :
    Prop where
  /-- There is no tree exactly where the walk was cancelled before it began. -/
  root : result.root = none ↔ moment = 0
  /-- Something is missing exactly where the moment comes before the last node. -/
  complete : result.complete = false ↔ moment < whole.size
  /-- The nodes are the first ones in the order of the walk, each at its place in the tree. -/
  positions : ∀ tree, result.root = some tree → tree.preorder = whole.preorder.take moment
  /-- Each node is a remnant of the one at its place. -/
  remnants : ∀ tree, result.root = some tree → ∀ position node, tree.at? position = some node →
    ∃ full, whole.at? position = some full ∧ node.RemnantOf full
  /-- Where something is missing, the summary of the tree says that a branch was cut short. -/
  summary : result.complete = false → ∀ tree, result.root = some tree →
    (CascadeSummary.ofTree (some tree)).hasTruncatedBranches = true

/-- A tree cut at the moment is what is left of it, if it is marked as cancelled nowhere and no
node with children is cut short. -/
theorem leftOf_cut {whole : CascadeNode}
    (untouched : ∀ position node, whole.at? position = some node →
      node.truncation.map (·.kind) ≠ some .cancelled ∧
        (node.children ≠ [] → node.truncation = none))
    (moment : Nat) :
    CascadeResult.LeftOf whole moment
      ⟨if 0 < moment then some (whole.cut (moment - 1)) else none,
        decide (whole.size ≤ moment)⟩ := by
  have kept : ∀ tree, (if 0 < moment then some (whole.cut (moment - 1)) else none) = some tree →
      0 < moment ∧ tree = whole.cut (moment - 1) := by
    intro tree found
    by_cases begun : 0 < moment
    · rw [if_pos begun] at found
      exact ⟨begun, (Option.some.inj found).symm⟩
    · rw [if_neg begun] at found
      cases found
  constructor
  case root =>
    by_cases begun : 0 < moment
    · simp [begun, Nat.ne_of_gt begun]
    · simp [Nat.eq_zero_of_not_pos begun]
  case complete => rw [decide_eq_false_iff_not, Nat.not_le]
  case positions =>
    intro tree found
    obtain ⟨begun, rfl⟩ := kept tree found
    rw [CascadeNode.preorder_cut, Nat.sub_add_cancel begun]
  case remnants =>
    intro tree found position node reached
    obtain ⟨-, rfl⟩ := kept tree found
    obtain ⟨inWhole, more, there, rfl⟩ := CascadeNode.at?_cut reached
    obtain ⟨uncancelled, unmarked⟩ := untouched position inWhole there
    exact ⟨inWhole, there, CascadeNode.remnantOf_cut uncancelled unmarked more⟩
  case summary =>
    intro incomplete tree found
    obtain ⟨begun, rfl⟩ := kept tree found
    rw [decide_eq_false_iff_not, Nat.not_le] at incomplete
    have fewer : moment - 1 + 1 < whole.size := by omega
    obtain ⟨node, member, mark⟩ := CascadeNode.exists_walkCancelled_of_lt fewer
    rw [CascadeSummary.ofTree_eq, Option.toList_some, CascadeNode.nodesAll_singleton]
    exact List.any_eq_true.mpr ⟨node, member, by rw [mark]; rfl⟩

open CascadeSource in
/-- A walk that is cancelled, while a callable is analyzed or while its callees are asked for, gives
the first nodes of the undisturbed walk, up to the one at which it is cancelled, and analyzes no
further callable. It is incomplete exactly where a node is missing, and a node is marked as
cancelled exactly where it has lost a child. -/
theorem cancellation_leaves_first_nodes (source : CascadeSource) (root : String)
    (requested : Option Number) (default : Number) (interruption : Interruption) :
    ∃ whole moment result,
      source.walk root requested default .never = .ok ⟨some whole, true⟩ ∧
      moment = interruption.moment whole.nodes ∧
      source.walk root requested default interruption = .ok result ∧
      result.LeftOf whole moment ∧
      (source.lastState root requested default interruption).analyzed =
        min moment whole.size := by
  obtain ⟨given, last⟩ := walk_interrupted source root requested default interruption rfl rfl
  refine ⟨_, _, _, walk_calm source root requested default, rfl, given, ?_, ?_⟩
  · exact leftOf_cut (fun _ _ => truncation_fullTree) _
  · rw [last]
    rfl

end StableTypes
