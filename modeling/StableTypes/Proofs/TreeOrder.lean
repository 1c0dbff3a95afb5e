import StableTypes.Proofs.TreePositions

/-!
# The order of the nodes of a cascade tree

A walk comes to a node before it comes to the children of the node, and to the children
from the first to the last. Here are the nodes of a tree in that order, and their
positions. What is proved about all trees is proved by induction on the tree, with the
children of a node taken one after the other.
-/

namespace StableTypes.CascadeNode

/-- A tree is no larger than several trees that it is one of. -/
theorem size_le_sizeAll {node : CascadeNode} {nodes : List CascadeNode} (member : node ∈ nodes) :
    node.size ≤ sizeAll nodes := by
  induction nodes with
  | nil => cases member
  | cons first rest ih =>
    rw [sizeAll]
    rcases List.mem_cons.mp member with rfl | later
    · exact Nat.le_add_right _ _
    · have inRest := ih later
      omega

/-- A tree has a node. -/
theorem size_pos (tree : CascadeNode) : 0 < tree.size := by
  rw [size_eq]
  exact Nat.succ_pos _

/-- A child is smaller than its parent. -/
theorem size_lt_of_mem {child tree : CascadeNode} (member : child ∈ tree.children) :
    child.size < tree.size := by
  rw [size_eq tree]
  exact Nat.lt_succ_of_le (size_le_sizeAll member)

/-- What passes from the children of a node to the node holds of every tree. -/
@[elab_as_elim]
theorem childInduction {motive : CascadeNode → Prop}
    (node : ∀ tree : CascadeNode, (∀ child ∈ tree.children, motive child) → motive tree)
    (tree : CascadeNode) : motive tree :=
  node tree fun child _ => childInduction node child
termination_by tree.size
decreasing_by exact size_lt_of_mem ‹_›

/-- The same where what holds of the children together is another property, which passes from a
tree and those after it to all of them. -/
@[elab_as_elim]
theorem forestInduction {motive : CascadeNode → Prop} (motiveAll : List CascadeNode → Prop)
    (node : ∀ tree : CascadeNode, motiveAll tree.children → motive tree) (nil : motiveAll [])
    (cons : ∀ first rest, motive first → motiveAll rest → motiveAll (first :: rest))
    (tree : CascadeNode) : motive tree := by
  induction tree using childInduction with
  | node tree ih =>
    have all : ∀ children : List CascadeNode, (∀ child ∈ children, motive child) →
        motiveAll children := by
      intro children each
      induction children with
      | nil => exact nil
      | cons first rest ihRest =>
        exact cons first rest (each first (.head _))
          (ihRest fun child later => each child (.tail _ later))
    exact node tree (all tree.children ih)

mutual

/-- The nodes of a tree in the order of a walk. -/
def nodes : CascadeNode → List CascadeNode
  | ⟨id, depth, report, children, error, truncation⟩ =>
    ⟨id, depth, report, children, error, truncation⟩ :: nodesAll children
termination_by structural node => node

/-- The nodes of several trees, one tree after the other. -/
def nodesAll : List CascadeNode → List CascadeNode
  | [] => []
  | node :: rest => nodes node ++ nodesAll rest
termination_by structural nodes => nodes

end

mutual

/-- The positions of a tree in the order of a walk. -/
def preorder : CascadeNode → List (List Nat)
  | ⟨_, _, _, children, _, _⟩ => [] :: preorderFrom 0 children
termination_by structural node => node

/-- The positions below the children from the one with the number `index` on. -/
def preorderFrom (index : Nat) : List CascadeNode → List (List Nat)
  | [] => []
  | node :: rest => (preorder node).map (index :: ·) ++ preorderFrom (index + 1) rest
termination_by structural nodes => nodes

end

variable {tree : CascadeNode}

theorem nodes_eq (tree : CascadeNode) : tree.nodes = tree :: nodesAll tree.children := by
  cases tree; rfl

theorem preorder_eq (tree : CascadeNode) :
    tree.preorder = [] :: preorderFrom 0 tree.children := by
  cases tree; rfl

theorem nodesAll_eq_flatMap (nodes : List CascadeNode) :
    nodesAll nodes = nodes.flatMap CascadeNode.nodes := by
  induction nodes with
  | nil => rfl
  | cons node rest ih => rw [nodesAll, ih, List.flatMap_cons]

@[simp] theorem nodesAll_singleton (tree : CascadeNode) : nodesAll [tree] = tree.nodes := by
  rw [nodesAll, nodesAll, List.append_nil]

/-- There are as many nodes as the size says. -/
theorem length_nodes (tree : CascadeNode) : tree.nodes.length = tree.size := by
  refine forestInduction (fun children => (nodesAll children).length = sizeAll children)
    ?node rfl ?cons tree
  case node =>
    intro tree all
    rw [nodes_eq, size_eq, List.length_cons, all]
  case cons =>
    intro first rest single all
    rw [nodesAll, sizeAll, List.length_append, single, all]

/-- The node at each position, in the order of a walk. -/
theorem map_at?_preorder (tree : CascadeNode) :
    tree.preorder.map tree.at? = tree.nodes.map some := by
  induction tree using childInduction with
  | node tree ih =>
    -- The children from some number on are what is left of all children after those before.
    have below : ∀ before rest : List CascadeNode, tree.children = before ++ rest →
        (preorderFrom before.length rest).map tree.at? = (nodesAll rest).map some := by
      intro before rest split
      induction rest generalizing before with
      | nil => rfl
      | cons child rest ihRest =>
        have found : tree.children[before.length]? = some child := by
          rw [split, List.getElem?_append_right (Nat.le_refl _), Nat.sub_self]
          rfl
        have inChild : ∀ position, tree.at? (before.length :: position) = child.at? position := by
          intro position
          rw [at?, found]
          rfl
        have member : child ∈ tree.children := List.mem_of_getElem? found
        have later := ihRest (before ++ [child]) (by rw [split, List.append_assoc]; rfl)
        rw [List.length_append, List.length_singleton] at later
        rw [preorderFrom, nodesAll, List.map_append, List.map_append, later, List.map_map]
        have first : (tree.at? ∘ (before.length :: ·)) = child.at? := funext inChild
        rw [first, ih child member]
    rw [preorder_eq, nodes_eq, List.map_cons, List.map_cons, at?_nil]
    exact congrArg _ (below [] tree.children rfl)

/-- The nodes of a tree are those at its positions. -/
theorem mem_nodes_iff {node : CascadeNode} :
    node ∈ tree.nodes ↔ ∃ position, tree.at? position = some node := by
  constructor
  · intro member
    have listed : some node ∈ tree.preorder.map tree.at? := by
      rw [map_at?_preorder]
      exact List.mem_map_of_mem member
    obtain ⟨position, -, reached⟩ := List.mem_map.mp listed
    exact ⟨position, reached⟩
  · rintro ⟨position, reached⟩
    induction position generalizing tree with
    | nil =>
      cases reached
      rw [nodes_eq]
      exact .head _
    | cons index position ih =>
      obtain ⟨child, found, below⟩ := at?_cons_eq_some.mp reached
      rw [nodes_eq, nodesAll_eq_flatMap]
      exact .tail _ (List.mem_flatMap.mpr ⟨child, List.mem_of_getElem? found, ih below⟩)

end StableTypes.CascadeNode
