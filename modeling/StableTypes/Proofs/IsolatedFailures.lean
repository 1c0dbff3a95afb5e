import StableTypes.Proofs.TreeChange

/-!
# Failures stay at their nodes

Analyzing a callable can fail, and so can asking for its callees. The tree of a walk with
such failures is the tree of the walk without them, changed at the nodes of the ids that
fail and nowhere else: a placeholder takes the place of the report, and the children are
lost. What the placeholder says and which text becomes the error is written out here, apart
from the program. An id that stands at many nodes fails at each of them. A position is lost
exactly where the callees of a node above it could not be asked for, which is followed from
the top down.
-/

namespace StableTypes

/-- The source with failures: the callables that cannot be analyzed, and those whose callees
cannot be asked for, each with its fault. -/
def CascadeSource.failingAt (source : CascadeSource) (analyzing calling : String → Option Fault) :
    CascadeSource where
  analyze id :=
    match analyzing id with
    | some fault => .error fault
    | none => source.analyze id
  callees id :=
    match calling id with
    | some fault => .error fault
    | none => source.callees id

/-- What is said of a callable that could not be analyzed: it can be started again, it cannot be
skipped, it does more than read, and nothing is known of its inputs. -/
def CallableReport.conservative (id : String) : CallableReport where
  id := id
  name := id
  qualifiedName := id
  isRestartable := true
  isSkippable := false
  isReadonly := false
  isSkippableInStrongSkippingMode := false
  parameters := []
  receivers := []

namespace CascadeNode

/-- A node with the failures of its id: where it cannot be analyzed, the conservative report and the
message of the error or the text of whatever else was thrown, and where its callees cannot be asked
for, no children. -/
def struck (analyzing calling : String → Option Fault) (node : CascadeNode) : CascadeNode where
  id := node.id
  depth := node.depth
  report :=
    match analyzing node.id with
    | some _ => .conservative node.id
    | none => node.report
  children := if (calling node.id).isSome ∧ node.truncation = none then [] else node.children
  error :=
    match analyzing node.id with
    | some (.error message) => some message
    | some (.bare text) => some text
    | none => node.error
  truncation := node.truncation

/-- The callees of every node above a position can be asked for. -/
def Called (calling : String → Option Fault) (tree : CascadeNode) (position : List Nat) : Prop :=
  ∀ above index below, position = above ++ index :: below →
    ∀ caller, tree.at? above = some caller → calling caller.id = none

/-- What the failures make of a node: `node` stands where `whole` would stand. -/
structure StruckFrom (analyzing calling : String → Option Fault) (node whole : CascadeNode) :
    Prop where
  /-- It stands for the same callable. -/
  id : node.id = whole.id
  /-- It is as deep. -/
  depth : node.depth = whole.depth
  /-- It is cut short alike. -/
  truncation : node.truncation = whole.truncation
  /-- Where analyzing the callable throws an error, the conservative report takes the place of the
  report, with the message of the error. -/
  failed : ∀ message, analyzing whole.id = some (.error message) →
    node.report = .conservative whole.id ∧ node.error = some message
  /-- The same holds where it throws anything else, with the text of that. -/
  thrown : ∀ text, analyzing whole.id = some (.bare text) →
    node.report = .conservative whole.id ∧ node.error = some text
  /-- Otherwise the report and the error are what they would be. -/
  analyzed : analyzing whole.id = none → node.report = whole.report ∧ node.error = whole.error
  /-- Where the callees cannot be asked for, there are no children. -/
  childless : calling whole.id ≠ none → node.children = []
  /-- Otherwise the children stand for the same callables, in the same order. -/
  called : calling whole.id = none → node.children.map (·.id) = whole.children.map (·.id)

variable {analyzing calling : String → Option Fault} {tree node : CascadeNode}

/-- Above a position below a child there are the top and the nodes above it in the child. -/
theorem called_cons {index : Nat} {position : List Nat} {child : CascadeNode}
    (there : tree.children[index]? = some child) :
    tree.Called calling (index :: position) ↔
      calling tree.id = none ∧ child.Called calling position := by
  constructor
  · intro called
    refine ⟨called [] index position rfl tree rfl, ?_⟩
    intro above next below split caller reached
    refine called (index :: above) next below ?_ caller
      (at?_cons_eq_some.mpr ⟨child, there, reached⟩)
    rw [split, List.cons_append]
  · rintro ⟨top, called⟩ above next below split caller reached
    cases above with
    | nil =>
      cases reached
      exact top
    | cons first above =>
      rw [List.cons_append, List.cons.injEq] at split
      obtain ⟨rfl, split⟩ := split
      obtain ⟨child', there', reached'⟩ := at?_cons_eq_some.mp reached
      obtain rfl : child = child' := Option.some.inj (there.symm.trans there')
      exact called above next below split caller reached'

/-- The children of a node that is struck, where only nodes that are not cut short have any. -/
theorem children_mapNodes_struck (unmarked : tree.children ≠ [] → tree.truncation = none) :
    (tree.mapNodes (struck analyzing calling)).children =
      if calling tree.id = none then tree.children.map (mapNodes (struck analyzing calling))
      else [] := by
  rw [mapNodes_eq, struck]
  cases fails : calling tree.id with
  | none => simp
  | some fault =>
    by_cases parent : tree.children = []
    · simp [parent]
    · simp [unmarked parent]

/-- The nodes that are left by failures are those that no failing query for callees stands
above, each with the failures of its id. -/
theorem at?_mapNodes_struck {position : List Nat}
    (unmarked : ∀ position node, tree.at? position = some node →
      node.children ≠ [] → node.truncation = none) :
    (tree.mapNodes (struck analyzing calling)).at? position = some node ↔
      ∃ whole, tree.at? position = some whole ∧ tree.Called calling position ∧
        node = whole.mapNodes (struck analyzing calling) := by
  induction position generalizing tree with
  | nil =>
    have top : tree.Called calling [] := by
      intro above index below split
      simp at split
    constructor
    · intro reached
      cases reached
      exact ⟨tree, rfl, top, rfl⟩
    · rintro ⟨whole, reached, -, rfl⟩
      cases reached
      rfl
  | cons index position ih =>
    have below : ∀ child, tree.children[index]? = some child → ∀ position node,
        child.at? position = some node → node.children ≠ [] → node.truncation = none :=
      fun child there position node reached =>
        unmarked (index :: position) node (at?_cons_eq_some.mpr ⟨child, there, reached⟩)
    rw [at?_cons_eq_some, children_mapNodes_struck (unmarked [] tree rfl)]
    constructor
    · rintro ⟨child', there', reached⟩
      split at there'
      next known =>
        rw [List.getElem?_map, Option.map_eq_some_iff] at there'
        obtain ⟨child, there, rfl⟩ := there'
        obtain ⟨whole, inChild, called, rfl⟩ := (ih (below child there)).mp reached
        exact ⟨whole, at?_cons_eq_some.mpr ⟨child, there, inChild⟩,
          (called_cons there).mpr ⟨known, called⟩, rfl⟩
      · cases there'
    · rintro ⟨whole, reached, called, rfl⟩
      obtain ⟨child, there, inChild⟩ := at?_cons_eq_some.mp reached
      obtain ⟨known, called⟩ := (called_cons there).mp called
      refine ⟨child.mapNodes (struck analyzing calling), ?_,
        (ih (below child there)).mpr ⟨whole, inChild, called, rfl⟩⟩
      rw [if_pos known, List.getElem?_map, there]
      rfl

/-- A node that is struck differs only by the failures of its id. -/
theorem struckFrom_mapNodes (unmarked : tree.children ≠ [] → tree.truncation = none) :
    (tree.mapNodes (struck analyzing calling)).StruckFrom analyzing calling tree := by
  have children : (tree.mapNodes (struck analyzing calling)).children = _ :=
    children_mapNodes_struck unmarked
  have top : tree.mapNodes (struck analyzing calling) = _ := mapNodes_eq tree
  constructor
  case id => rw [top, struck]
  case depth => rw [top, struck]
  case truncation => rw [top, struck]
  case failed =>
    intro message fails
    rw [top, struck]
    simp only [fails, and_self]
  case thrown =>
    intro text fails
    rw [top, struck]
    simp only [fails, and_self]
  case analyzed =>
    intro fine
    rw [top, struck]
    simp only [fine, and_self]
  case childless =>
    intro fails
    rw [children, if_neg fails]
  case called =>
    intro known
    have sameId : ∀ node, (struck analyzing calling node).id = node.id := fun _ => rfl
    rw [children, if_pos known, map_id_mapNodes sameId]

end CascadeNode

namespace CascadeSource

variable {analyzing calling : String → Option Fault}

/-- With failures, a node without its children has the conservative report where it cannot be
analyzed. -/
theorem bareNode_failingAt (source : CascadeSource) (id : String) (depth : Nat) :
    (source.failingAt analyzing calling).bareNode id depth =
      match analyzing id with
      | some (.error message) =>
        { id, depth, report := .conservative id, children := [], error := some message }
      | some (.bare text) =>
        { id, depth, report := .conservative id, children := [], error := some text }
      | none => source.bareNode id depth := by
  unfold bareNode failingAt
  dsimp only
  rcases analyzing id with none | ⟨message | text⟩ <;> rfl

/-- With failures, no callees are known where they cannot be asked for. -/
theorem calleesOf_failingAt (source : CascadeSource) (id : String) :
    (source.failingAt analyzing calling).calleesOf id =
      if calling id = none then source.calleesOf id else [] := by
  unfold calleesOf failingAt
  dsimp only
  cases calling id <;> rfl

/-- At a single node, failing is being struck. -/
theorem carries_failingAt (source : CascadeSource) (analyzing calling : String → Option Fault) :
    Carries (CascadeNode.struck analyzing calling) source
      (source.failingAt analyzing calling) := by
  constructor
  · intro id depth truncation
    rw [bareNode_failingAt]
    unfold CascadeNode.struck
    rcases fails : analyzing id with none | ⟨message | text⟩ <;> simp [fails]
  · intro id depth tree
    rw [bareNode_failingAt, calleesOf_failingAt]
    unfold CascadeNode.struck
    rcases fails : analyzing id with none | ⟨message | text⟩ <;>
      cases calls : calling id <;> simp [fails, calls]

end CascadeSource

open CascadeSource in
/-- Failures do not stop a walk, which comes to a result also where every query throws. Its tree is
that of the walk without them with every node struck by the failures of its id. So a position is
lost exactly where the callees of a node above it cannot be asked for, and a node that is left
differs only where its own id fails. -/
theorem failures_stay_at_their_nodes (source : CascadeSource)
    (analyzing calling : String → Option Fault) (root : String) (requested : Option Number)
    (default : Number) :
    ∃ whole left, source.walk root requested default .never = .ok ⟨some whole, true⟩ ∧
      (source.failingAt analyzing calling).walk root requested default .never =
        .ok ⟨some left, true⟩ ∧
      left = whole.mapNodes (CascadeNode.struck analyzing calling) ∧
      (∀ position, position ∈ left.positions ↔
        position ∈ whole.positions ∧ whole.Called calling position) ∧
      ∀ position node full, left.at? position = some node → whole.at? position = some full →
        node.StruckFrom analyzing calling full := by
  have unmarked : ∀ position node,
      (source.fullTree root (depthLimit requested default)).at? position = some node →
      node.children ≠ [] → node.truncation = none :=
    fun position node reached => (truncation_fullTree reached).2
  refine ⟨_, _, walk_calm source root requested default,
    walk_calm (source.failingAt analyzing calling) root requested default,
    fullTree_mapNodes (carries_failingAt source analyzing calling) root _, ?_⟩
  rw [fullTree_mapNodes (carries_failingAt source analyzing calling)]
  constructor
  · intro position
    simp only [CascadeNode.positions, Set.mem_ofPred_eq, Option.isSome_iff_exists,
      CascadeNode.at?_mapNodes_struck unmarked]
    constructor
    · rintro ⟨node, whole, reached, called, -⟩
      exact ⟨⟨whole, reached⟩, called⟩
    · rintro ⟨⟨whole, reached⟩, called⟩
      exact ⟨_, whole, reached, called, rfl⟩
  · intro position node full reached there
    obtain ⟨whole, there', -, rfl⟩ := (CascadeNode.at?_mapNodes_struck unmarked).mp reached
    obtain rfl : whole = full := Option.some.inj (there'.symm.trans there)
    exact CascadeNode.struckFrom_mapNodes (unmarked position whole there)

end StableTypes
