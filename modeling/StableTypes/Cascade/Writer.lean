import StableTypes.CallableReport.Writer
import StableTypes.Cascade.Summary

/-!
# Writing cascade trees

A node as a document, its branches inside it. The error and the truncation of a
node are written only if it has them, and come last.
-/

namespace StableTypes

/-- A truncation as a document. -/
def Truncation.toJson (truncation : Truncation) : Json :=
  .object [("kind", .string truncation.kind.name), ("reason", .string truncation.reason)]

namespace CascadeNode

mutual

/-- A tree as a document. -/
def toJson : CascadeNode → Json
  | ⟨id, depth, report, children, error, truncation⟩ =>
    .object ([("id", .string id), ("depth", .number (.finite depth)), ("stability", report.toJson),
        ("children", .array (toJsons children))]
      ++ Json.optional "error" (error.map .string)
      ++ Json.optional "truncated" (truncation.map Truncation.toJson))
termination_by structural node => node

/-- The documents of several trees. -/
def toJsons : List CascadeNode → List Json
  | [] => []
  | node :: nodes => toJson node :: toJsons nodes
termination_by structural nodes => nodes

end

end CascadeNode

/-- A summary as a document. -/
def CascadeSummary.toJson (summary : CascadeSummary Nat Rat) : Json :=
  .object [("totalCount", .nat summary.totalCount),
    ("skippableCount", .nat summary.skippableCount),
    ("unskippableCount", .nat summary.unskippableCount),
    ("maxDepth", .number (.finite summary.maxDepth)),
    ("hasTruncatedBranches", .bool summary.hasTruncatedBranches)]

/-- A tree that may be missing, as a document. -/
def CascadeNode.jsonOf (root : Option CascadeNode) : Json := (root.map toJson).getD .null

end StableTypes
