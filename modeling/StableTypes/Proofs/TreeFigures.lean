import StableTypes.Proofs.InterruptedWalk
import Mathlib.Data.List.Perm.Basic
import Mathlib.Algebra.BigOperators.Group.List.Basic

/-!
# The figures of a cascade tree

The summary of a tree is a fold over the tree: the figures of a node joined with those of its
branches. It does not depend on the order in which the nodes are counted. While they are counted,
some trees wait; one of them is taken, its top is counted, and its branches wait with the others.
Whichever tree is taken, the nodes counted and the nodes of the trees that wait are together always
the nodes of the tree, and what waits has one node less. So every such run ends, with every node
counted once.

In the tree of a walk, cancelled or not, the depth of a node is the length of its position, so the
largest depth is the number of calls on the longest path from the root to a leaf.
-/

namespace StableTypes

namespace CascadeNode

variable {tree node : CascadeNode}

/-- The nodes of several trees together are those of each of them. -/
theorem sizeAll_eq_sum (nodes : List CascadeNode) : sizeAll nodes = (nodes.map size).sum := by
  induction nodes with
  | nil => rfl
  | cons node nodes ih => rw [sizeAll, ih, List.map_cons, List.sum_cons]

/-- A position below another one is reached through it. -/
theorem at?_append (tree : CascadeNode) (position below : List Nat) :
    tree.at? (position ++ below) = (tree.at? position).bind (·.at? below) := by
  induction position generalizing tree with
  | nil => rfl
  | cons index position ih =>
    rw [List.cons_append, at?, at?, Option.bind_assoc]
    exact Option.bind_congr fun child _ => ih child

/-- A number is the height of a tree if it is the number of edges of a longest path from the top
to a leaf. -/
structure IsHeight (tree : CascadeNode) (height : Nat) : Prop where
  /-- Some leaf is so many edges below the top. -/
  reached : ∃ position leaf, tree.at? position = some leaf ∧ leaf.children = [] ∧
    position.length = height
  /-- No node is further below it. -/
  bounded : ∀ position node, tree.at? position = some node → position.length ≤ height

/-- A node is a leaf if no position is longer than its own. -/
theorem leaf_of_longest {position : List Nat} (reached : tree.at? position = some node)
    (longest : ∀ position' node', tree.at? position' = some node' →
      position'.length ≤ position.length) : node.children = [] := by
  cases children : node.children with
  | nil => rfl
  | cons child rest =>
    have below : tree.at? (position ++ [0]) = some child := by
      rw [at?_append, reached, Option.bind_some, at?, children]
      rfl
    have longer := longest _ _ below
    rw [List.length_append, List.length_singleton] at longer
    omega

end CascadeNode

namespace CascadeSummary

/-- The figures of some nodes and of some others together. -/
def join (first second : CascadeSummary Nat Rat) : CascadeSummary Nat Rat where
  totalCount := first.totalCount + second.totalCount
  skippableCount := first.skippableCount + second.skippableCount
  unskippableCount := first.unskippableCount + second.unskippableCount
  maxDepth := max first.maxDepth second.maxDepth
  hasTruncatedBranches := first.hasTruncatedBranches || second.hasTruncatedBranches

mutual

/-- The figures of a tree: those of its top joined with those of its branches. -/
def figures : CascadeNode → CascadeSummary Nat Rat
  | ⟨id, depth, report, children, error, truncation⟩ =>
    (empty.count ⟨id, depth, report, children, error, truncation⟩).join (figuresAll children)
termination_by structural node => node

/-- The figures of several trees. -/
def figuresAll : List CascadeNode → CascadeSummary Nat Rat
  | [] => empty
  | node :: rest => (figures node).join (figuresAll rest)
termination_by structural nodes => nodes

end

theorem figures_eq (tree : CascadeNode) :
    figures tree = (empty.count tree).join (figuresAll tree.children) := by
  cases tree; rfl

/-- A count that goes on from joined figures goes on from the second ones. -/
theorem foldl_count_join (first second : CascadeSummary Nat Rat) (nodes : List CascadeNode) :
    nodes.foldl count (first.join second) = first.join (nodes.foldl count second) := by
  induction nodes generalizing second with
  | nil => rfl
  | cons node nodes ih =>
    rw [List.foldl_cons, List.foldl_cons, ← ih]
    congr 1
    simp [join, count_eq, Nat.add_assoc, Bool.or_assoc, max_assoc]

/-- Joining the figures of nothing changes no figures of a depth that is not negative. -/
theorem join_empty {summary : CascadeSummary Nat Rat} (deep : 0 ≤ summary.maxDepth) :
    summary.join empty = summary := by
  simp [join, empty, deep]

/-- No count comes to a negative depth. -/
theorem maxDepth_foldl_count {summary : CascadeSummary Nat Rat} (deep : 0 ≤ summary.maxDepth)
    (nodes : List CascadeNode) : 0 ≤ (nodes.foldl count summary).maxDepth := by
  induction nodes generalizing summary with
  | nil => exact deep
  | cons node nodes ih =>
    rw [List.foldl_cons]
    refine ih ?_
    rw [count_eq]
    exact le_max_of_le_left deep

/-- A count begun with figures of a depth that is not negative joins them with those of what is
counted. -/
theorem foldl_count_eq_join {summary : CascadeSummary Nat Rat} (deep : 0 ≤ summary.maxDepth)
    (nodes : List CascadeNode) :
    nodes.foldl count summary = summary.join (nodes.foldl count empty) := by
  rw [← foldl_count_join, join_empty deep]

/-- Counting the nodes of a tree gives its figures. -/
theorem foldl_count_nodes (tree : CascadeNode) : tree.nodes.foldl count empty = figures tree := by
  refine CascadeNode.forestInduction
    (fun children => (CascadeNode.nodesAll children).foldl count empty = figuresAll children)
    ?node rfl ?cons tree
  case node =>
    intro tree all
    have deep : 0 ≤ (empty.count tree).maxDepth := maxDepth_foldl_count le_rfl [tree]
    rw [CascadeNode.nodes_eq, List.foldl_cons, foldl_count_eq_join deep, all, figures_eq]
  case cons =>
    intro first rest single all
    rw [CascadeNode.nodesAll, List.foldl_append,
      foldl_count_eq_join (maxDepth_foldl_count le_rfl first.nodes), single, all, figuresAll]

/-- The figures of a tree that may be missing are found by the fold. -/
theorem ofTree_eq_figuresAll (root : Option CascadeNode) :
    ofTree root = figuresAll root.toList := by
  rw [ofTree, countAll_eq_foldl]
  cases root with
  | none => rfl
  | some tree =>
    have deep : 0 ≤ (figures tree).maxDepth :=
      foldl_count_nodes tree ▸ maxDepth_foldl_count le_rfl tree.nodes
    rw [Option.toList_some, CascadeNode.nodesAll_singleton, foldl_count_nodes, figuresAll,
      figuresAll, join_empty deep]

/-- Two nodes may be counted in either order. -/
instance : RightCommutative count where
  right_comm summary first second := by
    simp [count_eq, Nat.add_right_comm, max_right_comm, Bool.or_right_comm]

/-- What a summary says of trees. -/
structure SumsUp (trees : List CascadeNode) (summary : CascadeSummary Nat Rat) : Prop where
  /-- Every node is counted. -/
  total : summary.totalCount = (CascadeNode.nodesAll trees).length
  /-- So is every node that can be skipped. -/
  skippable : summary.skippableCount =
    (CascadeNode.nodesAll trees).countP (·.report.isSkippable)
  /-- So is every other node. -/
  unskippable : summary.unskippableCount =
    (CascadeNode.nodesAll trees).countP (!·.report.isSkippable)
  /-- Every node is one or the other. -/
  split : summary.skippableCount + summary.unskippableCount = summary.totalCount
  /-- No node is deeper than the depth given. -/
  deepest : ∀ node ∈ CascadeNode.nodesAll trees, node.depth ≤ summary.maxDepth
  /-- The depth given is not negative. -/
  nonneg : 0 ≤ summary.maxDepth
  /-- Some node is as deep, unless the depth given is zero. -/
  attained : summary.maxDepth = 0 ∨
    ∃ node ∈ CascadeNode.nodesAll trees, node.depth = summary.maxDepth
  /-- A cut branch is reported exactly where some node is cut short. -/
  truncated : summary.hasTruncatedBranches = true ↔
    ∃ node ∈ CascadeNode.nodesAll trees, node.truncation.isSome = true

/-- The summary of a tree that may be missing sums it up. -/
theorem sumsUp_ofTree (root : Option CascadeNode) : SumsUp root.toList (ofTree root) := by
  let nodes := CascadeNode.nodesAll root.toList
  have largest : (0 :: nodes.map (·.depth)).max? = some ((nodes.map (·.depth)).foldl max 0) :=
    List.max?_cons'
  obtain ⟨among, above⟩ := List.max?_eq_some_iff.mp largest
  rw [ofTree_eq]
  constructor
  case total => rfl
  case skippable => rfl
  case unskippable => rfl
  case split =>
    have split := List.length_eq_countP_add_countP (l := nodes) (·.report.isSkippable)
    simp only [Bool.not_eq_true, Bool.decide_eq_false] at split
    exact split.symm
  case deepest =>
    intro node member
    exact above _ (.tail _ (List.mem_map_of_mem member))
  case nonneg => exact above 0 (.head _)
  case attained =>
    rcases List.mem_cons.mp among with zero | member
    · exact .inl zero
    · exact .inr (List.mem_map.mp member)
  case truncated => exact List.any_eq_true

end CascadeSummary

/-- How far a count has come. -/
structure Counting where
  /-- The figures so far. -/
  summary : CascadeSummary Nat Rat
  /-- The nodes counted, in order. -/
  counted : List CascadeNode
  /-- The trees that wait, in any order. -/
  waiting : List CascadeNode

namespace Counting

/-- Nothing is counted yet. -/
def start (trees : List CascadeNode) : Counting := ⟨.empty, [], trees⟩

/-- One of the trees that wait is taken and its top is counted. Its branches wait with the other
trees, each at any place. -/
inductive Step : Counting → Counting → Prop
  /-- The tree taken is one of those that wait. -/
  | take {summary : CascadeSummary Nat Rat} {counted waiting later : List CascadeNode}
      (node : CascadeNode) (others : List CascadeNode) : waiting.Perm (node :: others) →
      later.Perm (node.children ++ others) →
      Step ⟨summary, counted, waiting⟩ ⟨summary.count node, counted ++ [node], later⟩

variable {state next : Counting} {trees : List CascadeNode}

/-- The trees may wait on a stack, so that the last one is taken and its branches are put in its
place. -/
theorem step_last (summary : CascadeSummary Nat Rat) (counted waiting : List CascadeNode)
    (node : CascadeNode) :
    Step ⟨summary, counted, waiting ++ [node]⟩
      ⟨summary.count node, counted ++ [node], waiting ++ node.children⟩ :=
  .take node waiting (List.perm_append_singleton _ _) List.perm_append_comm

/-- A step leaves one node less to be counted. -/
theorem Step.size_waiting (step : Step state next) :
    CascadeNode.sizeAll next.waiting + 1 = CascadeNode.sizeAll state.waiting := by
  cases step with
  | take node others taken put =>
    dsimp only
    rw [CascadeNode.sizeAll_eq_sum, CascadeNode.sizeAll_eq_sum, (put.map _).sum_eq,
      (taken.map _).sum_eq, ← CascadeNode.sizeAll_eq_sum, ← CascadeNode.sizeAll_eq_sum,
      CascadeNode.sizeAll_append, CascadeNode.sizeAll, CascadeNode.size_eq]
    omega

/-- Every count ends. -/
theorem wellFounded_step : WellFounded fun next state => Step state next :=
  Subrelation.wf (fun step => by
    have less := Step.size_waiting step
    exact Nat.lt_of_succ_le (Nat.le_of_eq less))
    (measure fun state : Counting => CascadeNode.sizeAll state.waiting).wf

/-- A count can go on as long as trees wait. -/
theorem exists_step (waits : state.waiting ≠ []) : ∃ next, Step state next := by
  obtain ⟨summary, counted, waiting⟩ := state
  obtain ⟨others, node, rfl⟩ := List.eq_nil_or_concat' waiting |>.resolve_left waits
  exact ⟨_, step_last summary counted others node⟩

/-- What stays the same in a count: the figures are those of the nodes counted, and together with
the nodes of the trees that wait these are the nodes of the trees at the start. -/
structure Sound (trees : List CascadeNode) (state : Counting) : Prop where
  /-- The figures are those of the nodes counted. -/
  figures : state.summary = state.counted.foldl CascadeSummary.count .empty
  /-- No node is lost, and none is counted twice. -/
  nodes : (state.counted ++ CascadeNode.nodesAll state.waiting).Perm (CascadeNode.nodesAll trees)

/-- A step keeps the figures and the nodes right. -/
theorem Sound.step (sound : Sound trees state) (step : Step state next) : Sound trees next := by
  cases step with
  | @take summary counted waiting later node others taken put =>
    constructor
    · dsimp only
      rw [List.foldl_append, List.foldl_cons, List.foldl_nil]
      exact congrArg (·.count node) sound.figures
    · refine List.Perm.trans ?_ sound.nodes
      have before : (CascadeNode.nodesAll waiting).Perm (node :: CascadeNode.nodesAll later) := by
        rw [CascadeNode.nodesAll_eq_flatMap, CascadeNode.nodesAll_eq_flatMap]
        refine (taken.flatMap_right _).trans ?_
        rw [List.flatMap_cons, CascadeNode.nodes_eq, CascadeNode.nodesAll_eq_flatMap,
          List.cons_append, ← List.flatMap_append]
        exact (put.flatMap_right _).symm.cons node
      dsimp only
      rw [List.append_assoc]
      exact before.symm.append_left counted

/-- A count begins right. -/
theorem sound_start (trees : List CascadeNode) : Sound trees (start trees) := ⟨rfl, .refl _⟩

/-- A count stays right. -/
theorem sound_of_run (run : Relation.ReflTransGen Step (start trees) state) :
    Sound trees state := by
  induction run with
  | refl => exact sound_start trees
  | tail _ step ih => exact ih.step step

end Counting

/-- Every node of the tree of a walk, cancelled or not, is as deep as its position is long. -/
theorem CascadeSource.depth_of_walk {source : CascadeSource} {root : String}
    {requested : Option Number} {default : Number} {interruption : Interruption}
    {result : CascadeResult} {tree node : CascadeNode} {position : List Nat}
    (walked : source.walk root requested default interruption = .ok result)
    (begun : result.root = some tree) (reached : tree.at? position = some node) :
    node.depth = position.length := by
  obtain ⟨full, more, there, rfl⟩ := exists_full_of_walk walked begun reached
  have described := (describes_fullTree there).depth
  rw [(CascadeNode.pathTo_at? there).1, Nat.cast_succ] at described
  rw [CascadeNode.cut_depth]
  exact (add_right_cancel described).symm

/-- Where every node is as deep as its position is long, the largest depth is the height. -/
theorem CascadeSummary.SumsUp.isHeight {tree : CascadeNode} {summary : CascadeSummary Nat Rat}
    (sumsUp : SumsUp [tree] summary)
    (depths : ∀ position node, tree.at? position = some node → node.depth = position.length) :
    ∃ height : Nat, summary.maxDepth = height ∧ tree.IsHeight height := by
  have bounded : ∀ position node, tree.at? position = some node →
      (position.length : Rat) ≤ summary.maxDepth := by
    intro position node reached
    rw [← depths position node reached]
    refine sumsUp.deepest node ?_
    rw [CascadeNode.nodesAll_singleton]
    exact CascadeNode.mem_nodes_iff.mpr ⟨position, reached⟩
  have reached : ∃ position node, tree.at? position = some node ∧
      summary.maxDepth = position.length := by
    rcases sumsUp.attained with zero | ⟨node, member, deepest⟩
    · exact ⟨[], tree, rfl, by rw [zero, List.length_nil, Nat.cast_zero]⟩
    · rw [CascadeNode.nodesAll_singleton] at member
      obtain ⟨position, there⟩ := CascadeNode.mem_nodes_iff.mp member
      exact ⟨position, node, there, deepest.symm.trans (depths position node there)⟩
  obtain ⟨position, node, there, longest⟩ := reached
  have highest : ∀ position' node', tree.at? position' = some node' →
      position'.length ≤ position.length := by
    intro position' node' there'
    have below := bounded position' node' there'
    rw [longest] at below
    exact Nat.cast_le.mp below
  exact ⟨position.length, longest,
    ⟨position, node, there, CascadeNode.leaf_of_longest there highest, rfl⟩, highest⟩

/-- The summary of a tree agrees with the tree: it counts every node once, in whatever order the
nodes are taken, and is the fold of the tree. In the tree of a walk the largest depth is the number
of calls on the longest path to a leaf. -/
theorem summary_agrees_with_tree :
    (∀ root : Option CascadeNode,
      CascadeSummary.SumsUp root.toList (CascadeSummary.ofTree root) ∧
        CascadeSummary.ofTree root = CascadeSummary.figuresAll root.toList) ∧
    (WellFounded (fun next state => Counting.Step state next) ∧
      ∀ (root : Option CascadeNode) (state : Counting),
        Relation.ReflTransGen Counting.Step (.start root.toList) state →
        (∀ next, ¬ Counting.Step state next) →
          state.counted.Perm (CascadeNode.nodesAll root.toList) ∧
            state.summary = CascadeSummary.ofTree root) ∧
    ∀ (source : CascadeSource) (root : String) (requested : Option Number) (default : Number)
      (interruption : Interruption),
      ∃ result, source.walk root requested default interruption = .ok result ∧
        ∀ tree ∈ result.root, ∃ height : Nat,
          (CascadeSummary.ofTree (some tree)).maxDepth = height ∧ tree.IsHeight height := by
  refine ⟨fun root => ⟨CascadeSummary.sumsUp_ofTree root, CascadeSummary.ofTree_eq_figuresAll root⟩,
    ⟨Counting.wellFounded_step, ?_⟩, ?_⟩
  · intro root state run ended
    have sound := Counting.sound_of_run run
    have done : state.waiting = [] := by
      by_contra waits
      obtain ⟨next, step⟩ := Counting.exists_step waits
      exact ended next step
    have all : state.counted.Perm (CascadeNode.nodesAll root.toList) := by
      have nodes := sound.nodes
      rwa [done, CascadeNode.nodesAll, List.append_nil] at nodes
    refine ⟨all, ?_⟩
    rw [sound.figures, all.foldl_eq, CascadeSummary.ofTree, CascadeSummary.countAll_eq_foldl]
  · intro source root requested default interruption
    obtain ⟨result, walked⟩ := source.exists_walk root requested default interruption
    refine ⟨result, walked, fun tree begun => ?_⟩
    exact (CascadeSummary.sumsUp_ofTree (some tree)).isHeight fun position node reached =>
      CascadeSource.depth_of_walk walked begun reached

/-- A program in which every callable calls one that calls nothing. -/
def CascadeSource.singleCall : CascadeSource where
  analyze _ := .ok none
  callees id := .ok (if id = "callee" then [] else ["callee"])

/-- The node of a callable that is not known. -/
def CascadeNode.unknown (id : String) (depth : Nat) (children : List CascadeNode) : CascadeNode :=
  { id, depth, report := .placeholder id, children, error := some "callable not found" }

/-- The tree of a single call has one edge, and its summary is what counting its two nodes from a
stack gives. -/
theorem single_call_summary :
    let callee := CascadeNode.unknown "callee" 1 []
    let caller := CascadeNode.unknown "caller" 0 [callee]
    CascadeSource.singleCall.walk "caller" none (.finite 10) .never = .ok ⟨some caller, true⟩ ∧
      (∃ height : Nat, (CascadeSummary.ofTree (some caller)).maxDepth = height ∧
        caller.IsHeight height) ∧
      (CascadeSummary.empty.count caller).count callee = CascadeSummary.ofTree (some caller) := by
  intro callee caller
  obtain ⟨-, ⟨-, counts⟩, walks⟩ := summary_agrees_with_tree
  have walked : CascadeSource.singleCall.walk "caller" none (.finite 10) .never =
      .ok ⟨some caller, true⟩ := (CascadeSource.walk_calm _ _ _ _).trans rfl
  have run : Relation.ReflTransGen Counting.Step (.start [caller])
      ⟨(CascadeSummary.empty.count caller).count callee, [caller, callee], []⟩ :=
    .tail (.single (Counting.step_last .empty [] [] caller))
      (Counting.step_last _ [caller] [] callee)
  have ended : ∀ next, ¬ Counting.Step
      ⟨(CascadeSummary.empty.count caller).count callee, [caller, callee], []⟩ next := by
    rintro _ (⟨node, others, taken, -⟩)
    exact List.not_perm_nil_cons _ _ taken
  obtain ⟨result, given, height⟩ := walks CascadeSource.singleCall "caller" none (.finite 10) .never
  obtain rfl := Except.ok.inj (walked.symm.trans given)
  exact ⟨walked, height caller rfl, (counts (some caller) _ run ended).2⟩

end StableTypes
