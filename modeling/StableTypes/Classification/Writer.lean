import StableTypes.Classification
import StableTypes.Json.Basic

/-!
# Writing classifications

The document of a classification has its kind first and then what that kind
carries. A combined outcome lists its members as they are.
-/

namespace StableTypes.Classification

mutual

/-- A classification as a document. -/
def toJson : Classification → Json
  | .stable reason => .object [("kind", .string "stable"), ("reason", .string reason)]
  | .unstable reason => .object [("kind", .string "unstable"), ("reason", .string reason)]
  | .runtime typeName reason =>
    .object
      [("kind", .string "runtime"), ("typeName", .string typeName), ("reason", .string reason)]
  | .parameter name => .object [("kind", .string "parameter"), ("name", .string name)]
  | .unknown name => .object [("kind", .string "unknown"), ("name", .string name)]
  | .combined members =>
    .object [("kind", .string "combined"), ("members", .array (toJsons members))]
termination_by structural classification => classification

/-- The documents of a list of classifications. -/
def toJsons : List Classification → List Json
  | [] => []
  | member :: members => toJson member :: toJsons members
termination_by structural members => members

end

end StableTypes.Classification
