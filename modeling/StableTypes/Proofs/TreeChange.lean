import StableTypes.Proofs.CallPaths
import StableTypes.Proofs.TreePrefix

/-!
# Changing every node of a cascade tree

Two sources that differ in what they report, or in which callees they know, give trees of
which one is the other with every node changed on its own. What the change has to do with
the sources is said for a single node; from that it follows for the trees by induction on
the levels.
-/

namespace StableTypes

namespace CascadeNode

mutual

/-- A tree with every node changed, after the nodes below it. -/
def mapNodes (change : CascadeNode → CascadeNode) : CascadeNode → CascadeNode
  | ⟨id, depth, report, children, error, truncation⟩ =>
    change ⟨id, depth, report, mapNodesAll change children, error, truncation⟩
termination_by structural node => node

/-- Several trees with every node changed. -/
def mapNodesAll (change : CascadeNode → CascadeNode) : List CascadeNode → List CascadeNode
  | [] => []
  | node :: rest => mapNodes change node :: mapNodesAll change rest
termination_by structural nodes => nodes

end

variable {change : CascadeNode → CascadeNode}

theorem mapNodesAll_eq_map (nodes : List CascadeNode) :
    mapNodesAll change nodes = nodes.map (mapNodes change) := by
  induction nodes with
  | nil => rfl
  | cons node rest ih => rw [mapNodesAll, ih, List.map_cons]

/-- A tree is changed at the top when its children have been changed. -/
theorem mapNodes_eq (tree : CascadeNode) :
    tree.mapNodes change =
      change { tree with children := tree.children.map (mapNodes change) } := by
  cases tree
  rw [mapNodes, mapNodesAll_eq_map]

/-- Trees whose nodes are changed stand for the same callables, if a node does. -/
theorem map_id_mapNodes (sameId : ∀ node, (change node).id = node.id)
    (nodes : List CascadeNode) :
    (nodes.map (mapNodes change)).map (·.id) = nodes.map (·.id) := by
  rw [List.map_map]
  refine List.map_congr_left fun node _ => ?_
  rw [Function.comp_apply, mapNodes_eq, sameId]

/-- The change of a node gives it another report or error and does not look at what is below it
or at why it is cut short. -/
structure Relabels (change : CascadeNode → CascadeNode) : Prop where
  /-- The node stands for the same callable. -/
  id : ∀ node, (change node).id = node.id
  /-- Children and mark are kept, whatever they are. -/
  shape : ∀ node children truncation,
    change { node with children := children, truncation := truncation } =
      { change node with children := children, truncation := truncation }

section

variable (relabels : Relabels change) (tree : CascadeNode)

include relabels

/-- A tree that is relabelled has the same callables below the top. -/
theorem children_mapNodes :
    (tree.mapNodes change).children = tree.children.map (mapNodes change) := by
  have top := relabels.shape tree (tree.children.map (mapNodes change)) tree.truncation
  rw [mapNodes_eq]
  exact congrArg CascadeNode.children top

/-- Relabelling keeps all positions. -/
theorem at?_mapNodes (position : List Nat) :
    (tree.mapNodes change).at? position = (tree.at? position).map (mapNodes change) := by
  induction position generalizing tree with
  | nil => rfl
  | cons index position ih =>
    rw [at?, at?, children_mapNodes relabels, List.getElem?_map, Option.map_bind]
    cases tree.children[index]? with
    | none => rfl
    | some child => exact ih child

/-- Relabelling keeps the order of the nodes. -/
theorem nodes_mapNodes : (tree.mapNodes change).nodes = tree.nodes.map (mapNodes change) := by
  induction tree using childInduction with
  | node tree ih =>
    rw [nodes_eq, nodes_eq tree, List.map_cons, children_mapNodes relabels, nodesAll_eq_flatMap,
      nodesAll_eq_flatMap, List.flatMap_map, List.map_flatMap]
    exact congrArg _ (List.flatMap_congr fun child member => ih child member)

/-- Relabelling keeps the id of a node and why it is cut short. -/
theorem id_and_truncation_mapNodes :
    (tree.mapNodes change).id = tree.id ∧ (tree.mapNodes change).truncation = tree.truncation := by
  have top : tree.mapNodes change =
      { change tree with
        children := tree.children.map (mapNodes change), truncation := tree.truncation } :=
    (mapNodes_eq tree).trans (relabels.shape tree _ tree.truncation)
  rw [top]
  exact ⟨relabels.id tree, rfl⟩

/-- Relabelling keeps the number of nodes. -/
theorem size_mapNodes : (tree.mapNodes change).size = tree.size := by
  rw [← length_nodes, nodes_mapNodes relabels, List.length_map, length_nodes]

/-- A tree can be cut before it is relabelled. -/
theorem cut_mapNodes :
    ∀ more, (tree.mapNodes change).cut more = (tree.cut more).mapNodes change := by
  refine forestInduction (fun children => ∀ count,
    cutAll count (children.map (mapNodes change)) = (cutAll count children).map (mapNodes change))
    ?node (fun _ => rfl) ?cons tree
  case node =>
    intro tree all more
    have whole : tree.mapNodes change =
        { change tree with
          children := tree.children.map (mapNodes change), truncation := tree.truncation } :=
      (mapNodes_eq tree).trans (relabels.shape tree _ tree.truncation)
    rw [cut_eq, children_mapNodes relabels, all, List.length_map, List.length_map, whole,
      mapNodes_eq (tree.cut more), cut_eq tree]
    exact (relabels.shape tree _ _).symm
  case cons =>
    intro child rest inChild inRest count
    cases count with
    | zero => rw [cutAll_zero, cutAll_zero, List.map_nil]
    | succ count =>
      rw [List.map_cons, cutAll_succ, cutAll_succ, List.map_cons, inChild,
        size_mapNodes relabels, inRest]

end

end CascadeNode

namespace CascadeSource

/-- Changing a node of the first source gives the node of the second. -/
structure Carries (change : CascadeNode → CascadeNode) (source source' : CascadeSource) :
    Prop where
  /-- This holds of a node that is cut short. -/
  leaf : ∀ id depth truncation,
    change { source.bareNode id depth with truncation := some truncation } =
      { source'.bareNode id depth with truncation := some truncation }
  /-- It holds of a node with a tree below each of its callees. -/
  branch : ∀ id depth (tree : String → CascadeNode),
    change { source.bareNode id depth with children := (source.calleesOf id).map tree } =
      { source'.bareNode id depth with children := (source'.calleesOf id).map tree }

variable {change : CascadeNode → CascadeNode} {source source' : CascadeSource}

/-- A node that is cut short has no children to change. -/
theorem mapNodes_leaf (carries : Carries change source source') (id : String) (depth : Nat)
    (truncation : Truncation) :
    ({ source.bareNode id depth with truncation := some truncation } :
        CascadeNode).mapNodes change =
      { source'.bareNode id depth with truncation := some truncation } := by
  rw [CascadeNode.mapNodes_eq, ← carries.leaf]
  dsimp only
  rw [bareNode_children, List.map_nil]

/-- What holds of single nodes holds of the trees that are grown. -/
theorem grow_mapNodes (carries : Carries change source source') (limit : Rat) (levels : Nat)
    (path : List String) (id : String) :
    source'.grow limit levels path id = (source.grow limit levels path id).mapNodes change := by
  induction levels generalizing path id with
  | zero => rw [grow, grow, mapNodes_leaf carries]
  | succ levels ih =>
    rw [grow, grow]
    by_cases there : id ∈ path
    · rw [if_pos there, if_pos there, mapNodes_leaf carries]
    · have below : source'.grow limit levels (id :: path) =
          CascadeNode.mapNodes change ∘ source.grow limit levels (id :: path) :=
        funext (ih (id :: path))
      rw [if_neg there, if_neg there, CascadeNode.mapNodes_eq, below]
      dsimp only
      rw [List.map_map, carries.branch]

/-- What holds of single nodes holds of the full trees. -/
theorem fullTree_mapNodes (carries : Carries change source source') (root : String)
    (limit : Rat) :
    source'.fullTree root limit = (source.fullTree root limit).mapNodes change :=
  grow_mapNodes carries limit limit.ceil.toNat [] root

end CascadeSource

end StableTypes
