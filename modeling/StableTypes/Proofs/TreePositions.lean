import StableTypes.Cascade.Tree
import Mathlib.Data.Set.Function

/-!
# Positions in a cascade tree

A node of a tree is known by its position, the numbers of the children that lead to
it from the top; two nodes with one id are told apart by it. The ids along the way
are the path of the node. Where siblings have different ids the path determines the
position, so paths can stand for nodes.
-/

namespace StableTypes.CascadeNode

/-- The node at a position. -/
def at? : CascadeNode → List Nat → Option CascadeNode
  | node, [] => some node
  | node, index :: position => (node.children[index]?).bind fun child => child.at? position

/-- The ids from the top down to a position. -/
def pathTo : CascadeNode → List Nat → List String
  | node, [] => [node.id]
  | node, index :: position =>
    node.id :: (node.children[index]?).elim [] fun child => child.pathTo position

/-- The positions of a tree. -/
def positions (tree : CascadeNode) : Set (List Nat) := {position | (tree.at? position).isSome}

variable {tree : CascadeNode}

@[simp] theorem at?_nil : tree.at? [] = some tree := rfl

@[simp] theorem pathTo_nil : tree.pathTo [] = [tree.id] := rfl

/-- A position below the top belongs to one of the children. -/
theorem at?_cons_eq_some {index : Nat} {position : List Nat} {node : CascadeNode} :
    tree.at? (index :: position) = some node ↔
      ∃ child, tree.children[index]? = some child ∧ child.at? position = some node := by
  rw [at?, Option.bind_eq_some_iff]

/-- A position below the top is one of a child. -/
theorem cons_mem_positions {index : Nat} {position : List Nat} :
    index :: position ∈ tree.positions ↔
      ∃ child, tree.children[index]? = some child ∧ position ∈ child.positions := by
  simp only [positions, Set.mem_ofPred_eq, Option.isSome_iff_exists, at?_cons_eq_some]
  constructor
  · rintro ⟨node, child, there, reached⟩
    exact ⟨child, there, node, reached⟩
  · rintro ⟨child, there, node, reached⟩
    exact ⟨node, child, there, reached⟩

/-- The path into a child begins at the parent. -/
theorem pathTo_cons {index : Nat} {child : CascadeNode} (there : tree.children[index]? = some child)
    (position : List Nat) : tree.pathTo (index :: position) = tree.id :: child.pathTo position := by
  rw [pathTo, there]
  rfl

/-- A path begins with the id at the top. -/
theorem pathTo_eq_cons (tree : CascadeNode) (position : List Nat) :
    ∃ rest, tree.pathTo position = tree.id :: rest := by
  cases position with
  | nil => exact ⟨[], rfl⟩
  | cons index position => exact ⟨_, rfl⟩

/-- The path of a node is one id longer than its position, and its id is the last one. -/
theorem pathTo_at? {position : List Nat} {node : CascadeNode}
    (reached : tree.at? position = some node) :
    (tree.pathTo position).length = position.length + 1 ∧
      (tree.pathTo position).getLast? = some node.id := by
  induction position generalizing tree with
  | nil =>
    cases reached
    exact ⟨rfl, rfl⟩
  | cons index position ih =>
    obtain ⟨child, there, below⟩ := at?_cons_eq_some.mp reached
    obtain ⟨length, last⟩ := ih below
    obtain ⟨rest, shape⟩ := pathTo_eq_cons child position
    rw [shape] at length last
    rw [pathTo_cons there, shape, List.getLast?_cons_cons]
    exact ⟨by simpa using length, last⟩

/-- Where no two siblings have one id, different positions have different paths. -/
theorem injOn_pathTo (distinct : ∀ position node, tree.at? position = some node →
    (node.children.map (·.id)).Nodup) : Set.InjOn tree.pathTo tree.positions := by
  intro first there second there' same
  induction first generalizing tree second with
  | nil =>
    cases second with
    | nil => rfl
    | cons index position =>
      obtain ⟨child, found, -⟩ := cons_mem_positions.mp there'
      obtain ⟨rest, shape⟩ := pathTo_eq_cons child position
      rw [pathTo_cons found, shape, pathTo_nil] at same
      simp at same
  | cons index position ih =>
    obtain ⟨child, found, inside⟩ := cons_mem_positions.mp there
    obtain ⟨rest, shape⟩ := pathTo_eq_cons child position
    cases second with
    | nil =>
      rw [pathTo_cons found, shape, pathTo_nil] at same
      simp at same
    | cons index' position' =>
      obtain ⟨child', found', inside'⟩ := cons_mem_positions.mp there'
      rw [pathTo_cons found, pathTo_cons found', List.cons.injEq] at same
      obtain ⟨rest', shape'⟩ := pathTo_eq_cons child' position'
      have sameId : child.id = child'.id := by
        have heads := same.2
        rw [shape, shape', List.cons.injEq] at heads
        exact heads.1
      -- The ids of the two children stand at the two indices in a list without repetition.
      have sameIndex : index = index' := by
        have short : index < (tree.children.map (·.id)).length := by
          rw [List.length_map]
          exact (List.getElem?_eq_some_iff.mp found).1
        refine (List.getElem?_inj short (distinct [] tree rfl)).mp ?_
        rw [List.getElem?_map, List.getElem?_map, found, found', Option.map_some, Option.map_some,
          sameId]
      subst sameIndex
      obtain rfl : child = child' := Option.some.inj (found.symm.trans found')
      have below : ∀ position node, child.at? position = some node →
          (node.children.map (·.id)).Nodup :=
        fun position node reached =>
          distinct (index :: position) node (at?_cons_eq_some.mpr ⟨child, found, reached⟩)
      rw [ih below inside inside' same.2]

end StableTypes.CascadeNode
