import StableTypes.Proofs.TreeOrder

/-!
# The first nodes of a cascade tree

A cancelled walk keeps the nodes that it came to. Cut after some number of nodes, a tree
keeps the top and the nodes that follow it in the order of a walk, and every node that has
lost a child is marked. The number of nodes still to keep is handed on from child to child,
so the facts below are by induction on the tree, and for the children of a node by
induction on the list of children with any number of nodes to keep.
-/

namespace StableTypes

/-- The mark of a node that has lost children because the walk was cancelled. -/
def Truncation.walkCancelled : Truncation := ⟨.cancelled, "walk cancelled"⟩

namespace CascadeNode

mutual

/-- The top of a tree and the next `more` nodes. -/
def cut (more : Nat) : CascadeNode → CascadeNode
  | ⟨id, depth, report, children, error, truncation⟩ =>
    let kept := cutAll more children
    ⟨id, depth, report, kept, error,
      if kept.length = children.length then truncation else some .walkCancelled⟩
termination_by structural node => node

/-- The first `count` nodes of several trees. -/
def cutAll (count : Nat) : List CascadeNode → List CascadeNode
  | [] => []
  | node :: rest =>
    if count = 0 then [] else cut (count - 1) node :: cutAll (count - node.size) rest
termination_by structural nodes => nodes

end

variable {tree node : CascadeNode} {more count : Nat}

theorem cut_eq (tree : CascadeNode) (more : Nat) :
    tree.cut more =
      { tree with
        children := cutAll more tree.children
        truncation :=
          if (cutAll more tree.children).length = tree.children.length then tree.truncation
          else some .walkCancelled } := by
  cases tree; rfl

@[simp] theorem cut_id : (tree.cut more).id = tree.id := by
  cases tree; rfl

@[simp] theorem cut_depth : (tree.cut more).depth = tree.depth := by
  cases tree; rfl

@[simp] theorem cut_report : (tree.cut more).report = tree.report := by
  cases tree; rfl

@[simp] theorem cut_error : (tree.cut more).error = tree.error := by
  cases tree; rfl

theorem cut_children : (tree.cut more).children = cutAll more tree.children := by
  cases tree; rfl

theorem cut_truncation : (tree.cut more).truncation =
    if (cutAll more tree.children).length = tree.children.length then tree.truncation
    else some .walkCancelled := by
  cases tree; rfl

/-- Nothing is kept of trees of which no node is to be kept. -/
theorem cutAll_zero (nodes : List CascadeNode) : cutAll 0 nodes = [] := by
  cases nodes with
  | nil => rfl
  | cons node rest => rw [cutAll, if_pos rfl]

/-- Of several trees the first is cut, and what it leaves to keep goes to the others. -/
theorem cutAll_succ (count : Nat) (node : CascadeNode) (rest : List CascadeNode) :
    cutAll (count + 1) (node :: rest) = node.cut count :: cutAll (count + 1 - node.size) rest := by
  rw [cutAll, if_neg (Nat.succ_ne_zero count), Nat.add_sub_cancel]

/-- A node without children has none to lose. -/
theorem cut_of_childless (childless : tree.children = []) (more : Nat) : tree.cut more = tree := by
  cases tree
  cases childless
  rfl

/-- There are as many positions as nodes. -/
theorem length_preorder (tree : CascadeNode) : tree.preorder.length = tree.size := by
  have lengths := congrArg List.length (map_at?_preorder tree)
  rw [List.length_map, List.length_map, length_nodes] at lengths
  exact lengths

/-- A tree cut after some nodes has the positions of these nodes. -/
theorem preorder_cut (tree : CascadeNode) :
    ∀ more, (tree.cut more).preorder = tree.preorder.take (more + 1) := by
  refine forestInduction (fun children => ∀ index count,
    preorderFrom index (cutAll count children) = (preorderFrom index children).take count)
    ?node ?nil ?cons tree
  case node =>
    intro tree all more
    rw [preorder_eq, preorder_eq tree, List.take_succ_cons, cut_children, all]
  case nil =>
    intro index count
    rw [cutAll, preorderFrom, List.take_nil]
  case cons =>
    intro child rest inChild inRest index count
    cases count with
    | zero => rw [cutAll_zero, preorderFrom, List.take_zero]
    | succ count =>
      have length : (child.preorder.map (index :: ·)).length = child.size := by
        rw [List.length_map, length_preorder]
      rw [cutAll_succ, preorderFrom, preorderFrom, inChild, inRest, List.take_append, length,
        List.map_take]

/-- What is kept of several trees are cuts of these trees. -/
theorem getElem?_cutAll {nodes : List CascadeNode} {index : Nat}
    (found : (cutAll count nodes)[index]? = some node) :
    ∃ whole more, nodes[index]? = some whole ∧ node = whole.cut more := by
  induction nodes generalizing count index with
  | nil => cases found
  | cons first rest ih =>
    cases count with
    | zero =>
      rw [cutAll_zero] at found
      cases found
    | succ count =>
      rw [cutAll_succ] at found
      cases index with
      | zero =>
        cases found
        exact ⟨first, count, rfl, rfl⟩
      | succ index => exact ih found

/-- The node at a position of a cut tree is a cut of the node there in the whole tree. -/
theorem at?_cut {position : List Nat} (reached : (tree.cut more).at? position = some node) :
    ∃ whole rest, tree.at? position = some whole ∧ node = whole.cut rest := by
  induction position generalizing tree more with
  | nil =>
    cases reached
    exact ⟨tree, more, rfl, rfl⟩
  | cons index position ih =>
    obtain ⟨child, found, below⟩ := at?_cons_eq_some.mp reached
    rw [cut_children] at found
    obtain ⟨whole, rest, there, rfl⟩ := getElem?_cutAll found
    obtain ⟨inside, left, reached', rfl⟩ := ih below
    exact ⟨inside, left, at?_cons_eq_some.mpr ⟨whole, there, reached'⟩, rfl⟩

/-- The trees of which something is kept are the first ones. -/
theorem map_id_cutAll_prefix (count : Nat) (nodes : List CascadeNode) :
    (cutAll count nodes).map (·.id) <+: nodes.map (·.id) := by
  induction nodes generalizing count with
  | nil => exact List.prefix_refl _
  | cons first rest ih =>
    cases count with
    | zero =>
      rw [cutAll_zero]
      exact List.nil_prefix
    | succ count =>
      rw [cutAll_succ, List.map_cons, List.map_cons, cut_id]
      exact (List.prefix_cons_inj _).mpr (ih _)

/-- Where every one of several trees is kept but not every node, some tree has lost a node. -/
theorem exists_cut_of_lt {nodes : List CascadeNode}
    (allKept : (cutAll count nodes).length = nodes.length) (fewer : count < sizeAll nodes) :
    ∃ whole ∈ nodes, ∃ more, whole.cut more ∈ cutAll count nodes ∧ more + 1 < whole.size := by
  induction nodes generalizing count with
  | nil =>
    rw [sizeAll] at fewer
    omega
  | cons first rest ih =>
    cases count with
    | zero =>
      rw [cutAll_zero] at allKept
      cases allKept
    | succ count =>
      rw [sizeAll] at fewer
      rw [cutAll_succ, List.length_cons, List.length_cons] at allKept
      rw [cutAll_succ]
      by_cases inFirst : count + 1 < first.size
      · exact ⟨first, .head _, count, .head _, inFirst⟩
      · obtain ⟨whole, member, more, kept, lost⟩ :=
          ih (Nat.succ.inj allKept) (by omega : count + 1 - first.size < sizeAll rest)
        exact ⟨whole, .tail _ member, more, .tail _ kept, lost⟩

/-- A tree that has lost a node has a mark that says so. -/
theorem exists_walkCancelled_of_lt (fewer : more + 1 < tree.size) :
    ∃ node ∈ (tree.cut more).nodes, node.truncation = some .walkCancelled := by
  induction tree using childInduction generalizing more with
  | node tree ih =>
    rw [nodes_eq]
    by_cases allKept : (cutAll more tree.children).length = tree.children.length
    · rw [size_eq] at fewer
      obtain ⟨child, member, left, kept, lost⟩ := exists_cut_of_lt allKept (by omega)
      obtain ⟨node, inChild, mark⟩ := ih child member lost
      refine ⟨node, .tail _ ?_, mark⟩
      rw [nodesAll_eq_flatMap, cut_children]
      exact List.mem_flatMap.mpr ⟨_, kept, inChild⟩
    · exact ⟨tree.cut more, .head _, by rw [cut_truncation, if_neg allKept]⟩

/-- What a cancelled walk leaves of a node of the tree that it would have built. -/
structure RemnantOf (node whole : CascadeNode) : Prop where
  /-- It stands for the same callable. -/
  id : node.id = whole.id
  /-- It is as deep. -/
  depth : node.depth = whole.depth
  /-- The report on it is the same. -/
  report : node.report = whole.report
  /-- If the report is a placeholder, it is one for the same reason. -/
  error : node.error = whole.error
  /-- Its children are the first of those that it should have. -/
  children : node.children.map (·.id) <+: whole.children.map (·.id)
  /-- It is marked as cancelled exactly where children are missing. -/
  cancelled : node.truncation.map (·.kind) = some .cancelled ↔
    node.children.map (·.id) ≠ whole.children.map (·.id)
  /-- Where it is not marked as cancelled, its mark is what it should be. -/
  mark : node.truncation.map (·.kind) ≠ some .cancelled → node.truncation = whole.truncation
  /-- Being marked as cancelled takes the place of no other mark. -/
  unmarked : node.truncation.map (·.kind) = some .cancelled → whole.truncation = none

/-- A node cut after some nodes is a remnant of it, if it was not marked as cancelled before
and is not cut short where it has children. -/
theorem remnantOf_cut {whole : CascadeNode}
    (uncancelled : whole.truncation.map (·.kind) ≠ some .cancelled)
    (unmarked : whole.children ≠ [] → whole.truncation = none) (more : Nat) :
    (whole.cut more).RemnantOf whole := by
  have first := map_id_cutAll_prefix more whole.children
  have sameIds : (cutAll more whole.children).length = whole.children.length ↔
      (cutAll more whole.children).map (·.id) = whole.children.map (·.id) := by
    constructor
    · intro length
      exact first.eq_of_length (by rw [List.length_map, List.length_map, length])
    · intro same
      have lengths := congrArg List.length same
      rwa [List.length_map, List.length_map] at lengths
  by_cases allKept : (cutAll more whole.children).length = whole.children.length
  · have kept : (whole.cut more).truncation = whole.truncation := by
      rw [cut_truncation, if_pos allKept]
    refine ⟨cut_id, cut_depth, cut_report, cut_error, by rwa [cut_children], ?_,
      fun _ => kept, ?_⟩
    · rw [kept, cut_children]
      exact iff_of_false uncancelled (not_not_intro (sameIds.mp allKept))
    · rw [kept]
      exact fun cancelled => absurd cancelled uncancelled
  · have marked : (whole.cut more).truncation = some .walkCancelled := by
      rw [cut_truncation, if_neg allKept]
    have parent : whole.children ≠ [] := by
      intro none
      rw [none] at allKept
      exact allKept rfl
    refine ⟨cut_id, cut_depth, cut_report, cut_error, by rwa [cut_children], ?_, ?_,
      fun _ => unmarked parent⟩
    · rw [marked, cut_children]
      exact iff_of_true rfl fun same => allKept (sameIds.mpr same)
    · rw [marked]
      exact fun other => absurd rfl other

end CascadeNode

end StableTypes
