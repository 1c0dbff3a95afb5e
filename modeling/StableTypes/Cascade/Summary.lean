import StableTypes.Cascade.Tree

/-!
# Summaries of cascade trees

How many callables a tree holds, how many of them can be skipped, how deep it is
and whether some branch was cut short. The nodes are counted from a list of
trees that still wait, so a deep tree needs no deep recursion.
-/

namespace StableTypes

/-- The figures of a tree, of which some are counts and one is a depth. They may be any
numbers when read from a document. -/
structure CascadeSummary (α β : Type) where
  /-- Number of callables. -/
  totalCount : α
  /-- Number of callables that can be skipped. -/
  skippableCount : α
  /-- Number of the others. -/
  unskippableCount : α
  /-- Largest number of calls from the root. -/
  maxDepth : β
  /-- Some branch was cut short. -/
  hasTruncatedBranches : Bool
deriving DecidableEq, Inhabited

namespace CascadeSummary

/-- The figures of a summary as floating point numbers. -/
def toNumbers (summary : CascadeSummary Nat Rat) : CascadeSummary Number Number where
  totalCount := .ofNat summary.totalCount
  skippableCount := .ofNat summary.skippableCount
  unskippableCount := .ofNat summary.unskippableCount
  maxDepth := .finite summary.maxDepth
  hasTruncatedBranches := summary.hasTruncatedBranches

/-- The summary of nothing. -/
def empty : CascadeSummary Nat Rat := ⟨0, 0, 0, 0, false⟩

/-- One more node counted. -/
def count (summary : CascadeSummary Nat Rat) (node : CascadeNode) : CascadeSummary Nat Rat where
  totalCount := summary.totalCount + 1
  skippableCount := summary.skippableCount + (if node.report.isSkippable then 1 else 0)
  unskippableCount := summary.unskippableCount + (if node.report.isSkippable then 0 else 1)
  maxDepth := if summary.maxDepth < node.depth then node.depth else summary.maxDepth
  hasTruncatedBranches := summary.hasTruncatedBranches || node.truncation.isSome

/-- Counts the nodes of the trees that wait. -/
def countAll (summary : CascadeSummary Nat Rat) :
    (waiting : List CascadeNode) → CascadeSummary Nat Rat
  | [] => summary
  | node :: waiting => countAll (summary.count node) (node.children ++ waiting)
termination_by waiting => CascadeNode.sizeAll waiting
decreasing_by
  simp only [CascadeNode.sizeAll, CascadeNode.sizeAll_append, CascadeNode.size_eq]
  omega

/-- The summary of a tree that may be missing. -/
def ofTree (root : Option CascadeNode) : CascadeSummary Nat Rat := countAll empty root.toList

end CascadeSummary

end StableTypes
