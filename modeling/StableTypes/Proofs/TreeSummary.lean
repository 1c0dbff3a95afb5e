import StableTypes.Cascade.Summary
import StableTypes.Proofs.TreeOrder
import Mathlib.Algebra.Order.Ring.Unbundled.Rat

/-!
# The summary of a tree counts its nodes

The trees that wait while a summary is computed hold the nodes that are still to be
counted, in the order of a walk. So computing a summary is counting the nodes of the tree
one after the other, and each figure is a count over the list of nodes.
-/

namespace StableTypes.CascadeSummary

/-- Counting the trees that wait is counting their nodes one after the other. -/
theorem countAll_eq_foldl (summary : CascadeSummary Nat Rat) (waiting : List CascadeNode) :
    countAll summary waiting = (CascadeNode.nodesAll waiting).foldl count summary := by
  induction summary, waiting using countAll.induct with
  | case1 summary => rw [countAll]; rfl
  | case2 summary node waiting ih =>
    rw [countAll, ih, CascadeNode.nodesAll, CascadeNode.nodes_eq, CascadeNode.nodesAll_eq_flatMap,
      CascadeNode.nodesAll_eq_flatMap, CascadeNode.nodesAll_eq_flatMap, List.flatMap_append]
    rfl

/-- The figures of a summary after one more node, the depth as the larger one. -/
theorem count_eq (summary : CascadeSummary Nat Rat) (node : CascadeNode) :
    summary.count node =
      { totalCount := summary.totalCount + 1
        skippableCount := summary.skippableCount + (if node.report.isSkippable then 1 else 0)
        unskippableCount := summary.unskippableCount + (if node.report.isSkippable then 0 else 1)
        maxDepth := max summary.maxDepth node.depth
        hasTruncatedBranches := summary.hasTruncatedBranches || node.truncation.isSome } := by
  rw [count, max_def_lt]

/-- The figures of a summary after some more nodes. -/
theorem foldl_count (summary : CascadeSummary Nat Rat) (nodes : List CascadeNode) :
    nodes.foldl count summary =
      { totalCount := summary.totalCount + nodes.length
        skippableCount := summary.skippableCount + nodes.countP (·.report.isSkippable)
        unskippableCount := summary.unskippableCount + nodes.countP (!·.report.isSkippable)
        maxDepth := (nodes.map (·.depth)).foldl max summary.maxDepth
        hasTruncatedBranches :=
          summary.hasTruncatedBranches || nodes.any (·.truncation.isSome) } := by
  induction nodes generalizing summary with
  | nil => simp
  | cons node nodes ih =>
    rw [List.foldl_cons, ih]
    cases skippable : node.report.isSkippable <;>
      simp [count_eq, skippable, Bool.or_assoc] <;> omega

/-- The figures of a tree that may be missing. -/
theorem ofTree_eq (root : Option CascadeNode) :
    ofTree root =
      let nodes := CascadeNode.nodesAll root.toList
      { totalCount := nodes.length
        skippableCount := nodes.countP (·.report.isSkippable)
        unskippableCount := nodes.countP (!·.report.isSkippable)
        maxDepth := (nodes.map (·.depth)).foldl max 0
        hasTruncatedBranches := nodes.any (·.truncation.isSome) } := by
  rw [ofTree, countAll_eq_foldl, foldl_count]
  simp [empty]

end StableTypes.CascadeSummary
