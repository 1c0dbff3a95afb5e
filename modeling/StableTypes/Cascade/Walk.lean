import StableTypes.Cascade.Tree

/-!
# Walking calls

The walk follows calls from a root and builds the tree of what it meets. The ids that
were visited and not yet left are kept in one set for the whole walk, so that a
callable may stand under several callers but only once on a path; an id is taken out
of the set whatever happens below it. The walk goes no deeper than a limit between 1
and 50, which need not be a whole number. A fault while a callable is analyzed leaves
a placeholder at its node, and a fault while its callees are asked for leaves it
without children. The walk can be cancelled from outside, also while it waits for an
answer; it then stops before the next node, and every open node that has lost a child
says so.
-/

namespace StableTypes

/-- No walk goes deeper. -/
def maxAbsoluteDepth : Nat := 50

/-- When a walk is cancelled from outside. -/
structure Interruption where
  /-- Before the walk. -/
  atOnce : Bool
  /-- While a callable is analyzed; given with the number of callables analyzed before it. -/
  analyzing : (ordinal : Nat) → (id : String) → Bool
  /-- While the callees of a callable are asked for; given with the number of callables
  analyzed before it. -/
  calling : (ordinal : Nat) → (id : String) → Bool

/-- The walk is left alone. -/
def Interruption.never : Interruption := ⟨false, fun _ _ => false, fun _ _ => false⟩

/-- What a walk asks for. -/
structure CascadeSource where
  /-- The report on a callable, if it is known. -/
  analyze : String → Except Fault (Option CallableReport)
  /-- The ids that a callable calls. -/
  callees : String → Except Fault (List String)

/-- How far a walk has come. -/
structure WalkState where
  /-- The ids visited and not left, as a set: each once. -/
  visited : List String
  /-- Callables analyzed so far. -/
  analyzed : Nat
  /-- The walk was cancelled from outside. -/
  aborted : Bool
  /-- Some node was not visited because of that. -/
  cancelled : Bool

namespace WalkState

/-- A walk that has not begun, which may be cancelled already. -/
def start (aborted : Bool) : WalkState := ⟨[], 0, aborted, false⟩

/-- An id is visited. -/
def enter (id : String) (state : WalkState) : WalkState :=
  { state with visited := state.visited.insert id }

/-- An id is left. -/
def leave (id : String) (state : WalkState) : WalkState :=
  { state with visited := state.visited.erase id }

/-- A callable is analyzed, during which the walk may be cancelled. -/
def analyze (interruption : Interruption) (id : String) (state : WalkState) : WalkState :=
  { state with
    analyzed := state.analyzed + 1
    aborted := state.aborted || interruption.analyzing state.analyzed id }

/-- The callees of the callable analyzed last are asked for, during which the walk may be
cancelled. -/
def call (interruption : Interruption) (id : String) (state : WalkState) : WalkState :=
  { state with
    aborted := state.aborted || interruption.calling (state.analyzed - 1) id }

end WalkState

/-- A part of a walk. It changes the state of the walk and may fail; the state stays as
it is at a failure. -/
abbrev Walk := ExceptT Fault (StateM WalkState)

/-- The result of a walk. -/
structure CascadeResult where
  /-- The tree, unless the walk was cancelled before it began. -/
  root : Option CascadeNode
  /-- Every node was visited. -/
  complete : Bool

namespace CascadeSource

/-- A depth as a limit: at least 1, at most 50. -/
def clampDepth : Number → Rat
  | .finite depth =>
    if depth < 1 then 1 else if depth < maxAbsoluteDepth then depth else maxAbsoluteDepth
  | .infinite true => 1
  | .infinite false => maxAbsoluteDepth

/-- The limit of a walk. A depth of zero, like none, asks for the default. -/
def depthLimit (requested : Option Number) (default : Number) : Rat :=
  match requested with
  | some depth => clampDepth (if depth.isZero then default else depth)
  | none => clampDepth default

/-- The text of a limit. -/
def limitText (limit : Rat) : String := (Number.finite limit).text

/-- The first occurrence of every id. -/
def distinct (seen : List String) : List String → List String
  | [] => []
  | id :: ids => if id ∈ seen then distinct seen ids else id :: distinct (id :: seen) ids

/-- Analyzes a callable: its node, without children. -/
def createNode (source : CascadeSource) (interruption : Interruption) (id : String)
    (depth : Nat) : Walk CascadeNode :=
  tryCatch (do
    modify (·.analyze interruption id)
    match ← answer (source.analyze id) with
    | some report => return { id, depth, report, children := [] }
    | none =>
      return { id, depth, report := .placeholder id, children := [],
               error := some "callable not found" })
    fun fault =>
      return { id, depth, report := .placeholder id, children := [], error := some fault.message }

/-- Asks for the callees of a callable: each once. -/
def getCallees (source : CascadeSource) (interruption : Interruption) (id : String) :
    Walk (List String) :=
  tryCatch (do
    modify (·.call interruption id)
    return distinct [] (← answer (source.callees id)))
    fun _ => return []

/-- Visits nodes in order until one is refused; tells whether all were visited. -/
def visitAll (visit : String → Walk (Option CascadeNode)) :
    List String → Walk (List CascadeNode × Bool)
  | [] => return ([], true)
  | id :: ids => do
    match ← visit id with
    | none => return ([], false)
    | some child =>
      let (children, complete) ← visitAll visit ids
      return (child :: children, complete)

/-- Runs a visit unless the walk is cancelled. -/
def unlessCancelled (visit : Walk CascadeNode) : Walk (Option CascadeNode) := do
  let state ← get
  if state.cancelled || state.aborted then
    set { state with cancelled := true }
    return none
  else return some (← visit)

/-- Visits the callees of a callable and puts their trees below its node. Meanwhile its id is
among those visited, and it is taken out again also if there is a fault. -/
def visitCallees (source : CascadeSource) (interruption : Interruption)
    (visit : String → Walk (Option CascadeNode)) (id : String) (node : CascadeNode) :
    Walk CascadeNode := do
  modify (·.enter id)
  tryFinally (do
      let callees ← source.getCallees interruption id
      let (children, complete) ← visitAll visit callees
      return { node with
        children := children
        truncation :=
          if complete then node.truncation else some ⟨.cancelled, "walk cancelled"⟩ })
    (modify (·.leave id))

/-- Visits a callable and what it calls. -/
def visit (source : CascadeSource) (interruption : Interruption) (limit : Rat) (depth : Nat)
    (id : String) : Walk (Option CascadeNode) :=
  unlessCancelled do
    let node ← source.createNode interruption id depth
    if _ : limit ≤ depth then
      return { node with
        truncation := some ⟨.maxDepth, "max depth reached (" ++ limitText limit ++ ")"⟩ }
    else if (← get).visited.contains id then
      return { node with truncation := some ⟨.cycle, "cycle detected: " ++ id⟩ }
    else
      source.visitCallees interruption
        (fun callee => source.visit interruption limit (depth + 1) callee) id node
termination_by limit.ceil.toNat - depth
decreasing_by
  have below : (depth : Int) < limit.ceil := Int.not_le.mp fun less =>
    ‹¬ limit ≤ depth› (Rat.le_trans Rat.le_ceil (Rat.intCast_le_intCast.mpr less))
  omega

/-- Walks the calls from a root. -/
def walk (source : CascadeSource) (root : String) (requested : Option Number) (default : Number)
    (interruption : Interruption) : Except Fault CascadeResult :=
  let (tree, state) := (source.visit interruption (depthLimit requested default) 0 root).run.run
    (.start interruption.atOnce)
  tree.map (⟨·, !state.cancelled⟩)

end CascadeSource

end StableTypes
