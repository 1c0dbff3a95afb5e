import StableTypes.CallableReport

/-!
# Cascade trees

The tree of the callables that are reached from a callable by calls, with a
report at every node. A branch can be cut short, and then says why.
-/

namespace StableTypes

/-- Why a branch was cut short. -/
inductive TruncationKind where
  /-- The walk goes no deeper. -/
  | maxDepth
  /-- The callable is already on the path. -/
  | cycle
  /-- The walk was cancelled. -/
  | cancelled
deriving DecidableEq, Inhabited

/-- The name of a kind. -/
def TruncationKind.name : TruncationKind → String
  | .maxDepth => "max_depth"
  | .cycle => "cycle"
  | .cancelled => "cancelled"

/-- How a branch was cut short. -/
structure Truncation where
  /-- Why. -/
  kind : TruncationKind
  /-- The same in words. -/
  reason : String
deriving DecidableEq, Inhabited

/-- A callable in a cascade tree. -/
structure CascadeNode where
  /-- Its id. -/
  id : String
  /-- Number of calls from the root. In a tree that no walk made it may be any number. -/
  depth : Rat
  /-- The report on it, or a placeholder. -/
  report : CallableReport
  /-- The callables it calls, in order. -/
  children : List CascadeNode
  /-- Why the report is a placeholder. -/
  error : Option String := none
  /-- How the branch was cut short. -/
  truncation : Option Truncation := none
deriving Inhabited

namespace CascadeNode

mutual

/-- Number of nodes of a tree. -/
def size : CascadeNode → Nat
  | ⟨_, _, _, children, _, _⟩ => sizeAll children + 1
termination_by structural node => node

/-- Number of nodes of several trees. -/
def sizeAll : List CascadeNode → Nat
  | [] => 0
  | node :: nodes => size node + sizeAll nodes
termination_by structural nodes => nodes

end

theorem size_eq (node : CascadeNode) : node.size = sizeAll node.children + 1 := by
  cases node; rfl

theorem sizeAll_append (left right : List CascadeNode) :
    sizeAll (left ++ right) = sizeAll left + sizeAll right := by
  induction left with
  | nil => simp [sizeAll]
  | cons node nodes ih => simp [sizeAll, ih, Nat.add_assoc]

end CascadeNode

end StableTypes
