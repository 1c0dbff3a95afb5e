import StableTypes.Cascade.Summary

/-!
# Printing cascade trees

A node is a line with its label, and its branches follow below it, each behind
the lines that lead to its later siblings. Inputs that are not stable are listed
between a node and its branches.
-/

namespace StableTypes

namespace CascadeNode

/-- The line of a node without what leads to it. -/
def label (node : CascadeNode) : String :=
  node.report.name ++ (if node.report.isSkippable then " [skippable]" else " [not skippable]")
    ++ (match node.truncation with
      | some truncation => " (" ++ truncation.reason ++ ")"
      | none => "")
    ++ (match node.error with
      | some error => if error = "" then "" else " (unavailable: " ++ error ++ ")"
      | none => "")

/-- The text of a parameter. -/
def parameterText (parameter : ParameterReport) : String :=
  "· " ++ parameter.name ++ ": " ++ parameter.report.type ++ " " ++ parameter.report.verdict.name
    ++ " - " ++ parameter.report.reason

/-- The texts of the parameters that are not stable. -/
def details (node : CascadeNode) : List String :=
  (node.report.parameters.filter (·.report.verdict ≠ .stable)).map parameterText

/-- The lines between a node and its branches. -/
def detailLines (showParameters : Bool) (lead : String) (node : CascadeNode) : List String :=
  if showParameters then
    node.details.map (lead ++ (if node.children.isEmpty then "   " else "│  ") ++ ·)
  else []

mutual

/-- The lines below a node, behind a lead. -/
def linesBelow (showParameters : Bool) (lead : String) : CascadeNode → List String
  | ⟨id, depth, report, children, error, truncation⟩ =>
    detailLines showParameters lead ⟨id, depth, report, children, error, truncation⟩
      ++ branchLines showParameters lead children
termination_by structural node => node

/-- The lines of the branches of a node, behind a lead. -/
def branchLines (showParameters : Bool) (lead : String) : List CascadeNode → List String
  | [] => []
  | child :: siblings =>
    ((lead ++ (if siblings.isEmpty then "└─ " else "├─ ") ++ child.label)
      :: linesBelow showParameters (lead ++ (if siblings.isEmpty then "   " else "│  ")) child)
      ++ branchLines showParameters lead siblings
termination_by structural nodes => nodes

end

/-- The lines of a tree. -/
def lines (showParameters : Bool) (root : CascadeNode) : List String :=
  root.label :: linesBelow showParameters "" root

/-- The text of a tree. -/
def text (showParameters : Bool) (root : CascadeNode) : String :=
  "\n".intercalate (root.lines showParameters)

/-- The text of a tree that may be missing. Unless told otherwise it lists the
inputs that are not stable. -/
def textOf (root : Option CascadeNode) (showParameters : Option Bool := none) : String :=
  match root with
  | some root => root.text (showParameters.getD true)
  | none => "(no nodes visited)"

end CascadeNode

/-- The summary in one line. -/
def CascadeSummary.text (summary : CascadeSummary Number Number) (complete : Bool) : String :=
  let total := summary.totalCount.text
    ++ (if summary.totalCount = .finite 1 then " callable" else " callables")
  ", ".intercalate ([total, summary.skippableCount.text ++ " skippable",
      summary.unskippableCount.text ++ " not skippable", "max depth " ++ summary.maxDepth.text]
    ++ (if summary.hasTruncatedBranches then ["truncated"] else [])
    ++ (if complete then [] else ["incomplete"]))

end StableTypes
