import StableTypes.Proofs.CallableOutcome
import StableTypes.Proofs.DepthIndependence
import StableTypes.Proofs.InterruptedWalk
import StableTypes.Proofs.SnapshotWalk
import StableTypes.Proofs.TreeChange

/-!
# Comparing inputs by identity changes no classification

Whether inputs that are not stable are compared by identity is decided by the policy, and
the rules do not look at it. So under two policies that differ in nothing else the outcome
of every type is the same, and the report on a callable differs in whether it can be skipped
and in nothing else. A walk, also one that is cancelled, gives the same tree but for that.
-/

namespace StableTypes

/-- The policy that compares inputs that are not stable by identity, or does not. -/
def Policy.comparing (policy : Policy) (byIdentity : Bool) : Policy :=
  { policy with identityComparable := byIdentity }

namespace Judge

/-- Judges that apply the same rules come to the same outcomes. -/
theorem outcomeWithin_congr {judge judge' : Judge}
    (same : ∀ classify type, judge.typeOutcome (m := Except Fault) classify type =
      judge'.typeOutcome classify type)
    (room : Nat) (active : List String) (type : TypeRef) :
    judge.outcomeWithin room active type = judge'.outcomeWithin room active type := by
  induction room generalizing active type with
  | zero => rw [outcomeWithin, outcomeWithin]
  | succ room ih =>
    have inside : judge.outcomeWithin room (type.signature :: active) =
        judge'.outcomeWithin room (type.signature :: active) :=
      funext (ih (type.signature :: active))
    rw [outcomeWithin, outcomeWithin, inside, same]

variable (model : TypeModel) (catalog : Catalog) (policy : Policy)

/-- The rules do not look at how inputs are compared. -/
theorem outcomeOn_comparing (byIdentity : Bool) (guard : SignatureGuard) (type : TypeRef) :
    outcomeOn ⟨model, catalog, policy.comparing byIdentity⟩ guard type =
      outcomeOn ⟨model, catalog, policy⟩ guard type := by
  have same : (policy.comparing byIdentity).SamePatterns policy := ⟨fun _ => rfl, fun _ => rfl⟩
  exact outcomeWithin_congr (typeOutcome_samePatterns same) guard.room guard.active type

end Judge

/-- The report on a callable whose inputs are compared by identity, from the report on it where
they are not. -/
def CallableReport.strengthened (report : CallableReport) : CallableReport :=
  { report with
    isSkippable := true
    isSkippableInStrongSkippingMode := !report.isSkippable }

namespace Judge

variable (model : TypeModel) (catalog : Catalog) (policy : Policy)

/-- A callable is reported on alike, but for whether it can be skipped. -/
theorem reportOn_comparing (guard : SignatureGuard) (callable : Callable) :
    reportOn ⟨model, catalog, policy.comparing true⟩ guard callable =
      (reportOn ⟨model, catalog, policy.comparing false⟩ guard callable).strengthened := by
  have types : ∀ byIdentity,
      typeReportOn ⟨model, catalog, policy.comparing byIdentity⟩ guard =
        typeReportOn ⟨model, catalog, policy⟩ guard := by
    intro byIdentity
    funext type
    rw [typeReportOn, typeReportOn, outcomeOn_comparing]
  rw [reportOn, reportOn, types, types]
  rfl

end Judge

/-- A result with every node of its tree changed. -/
def CascadeResult.mapNodes (change : CascadeNode → CascadeNode) (result : CascadeResult) :
    CascadeResult :=
  ⟨result.root.map (CascadeNode.mapNodes change), result.complete⟩

namespace CascadeSource

/-- What relabels the nodes of the full tree relabels those of a walk, cancelled or not. -/
theorem walk_relabelled {change : CascadeNode → CascadeNode} {source source' : CascadeSource}
    (carries : Carries change source source') (relabels : CascadeNode.Relabels change)
    (root : String) (requested : Option Number) (default : Number)
    (interruption : Interruption) :
    source'.walk root requested default interruption =
      (source.walk root requested default interruption).map (·.mapNodes change) := by
  generalize whole : source.fullTree root (depthLimit requested default) = tree
  generalize cancelled : interruption.moment tree.nodes = moment
  have whole' : tree.mapNodes change = source'.fullTree root (depthLimit requested default) := by
    rw [fullTree_mapNodes carries, whole]
  have cancelled' : moment = interruption.moment (tree.mapNodes change).nodes := by
    rw [CascadeNode.nodes_mapNodes relabels,
      Interruption.moment_map (CascadeNode.id_and_truncation_mapNodes relabels), cancelled]
  rw [(walk_interrupted source root requested default interruption whole.symm cancelled.symm).1,
    (walk_interrupted source' root requested default interruption whole' cancelled').1,
    CascadeNode.size_mapNodes relabels, CascadeNode.cut_mapNodes relabels]
  rw [Except.map, CascadeResult.mapNodes]
  split <;> rfl

end CascadeSource

namespace CascadeNode

/-- A node with the report that its callable has where inputs are compared by identity. -/
def strengthened (node : CascadeNode) : CascadeNode :=
  { node with report := if node.error = none then node.report.strengthened else node.report }

theorem relabels_strengthened : Relabels strengthened := ⟨fun _ => rfl, fun _ _ _ => rfl⟩

/-- Two nodes that differ in nothing but whether the callable can be skipped: inputs are compared
by identity for `on`, and they are not for `off`. -/
structure AlikeButSkipping (off on : CascadeNode) : Prop where
  /-- They stand for the same callable. -/
  id : on.id = off.id
  /-- They are as deep. -/
  depth : on.depth = off.depth
  /-- They are cut short alike. -/
  truncation : on.truncation = off.truncation
  /-- They have the same error. -/
  error : on.error = off.error
  /-- Their children stand for the same callables, in the same order. -/
  children : on.children.map (·.id) = off.children.map (·.id)
  /-- The reports are on the same callable. -/
  names : on.report.id = off.report.id ∧ on.report.name = off.report.name ∧
    on.report.qualifiedName = off.report.qualifiedName
  /-- The parameters are reported on alike. -/
  parameters : on.report.parameters = off.report.parameters
  /-- The receivers are reported on alike. -/
  receivers : on.report.receivers = off.report.receivers
  /-- Both callables can be started again on their own, or none. -/
  restartable : on.report.isRestartable = off.report.isRestartable
  /-- Both callables only read, or none. -/
  readonly : on.report.isReadonly = off.report.isReadonly
  /-- Nothing is skipped because of identity where inputs are not compared by it. -/
  weak : off.report.isSkippableInStrongSkippingMode = false
  /-- Every callable that could be analyzed can be skipped where they are. -/
  skippable : on.error = none → on.report.isSkippable = true
  /-- It is skipped because of identity exactly where it could not be skipped otherwise. -/
  strong : on.error = none →
    on.report.isSkippableInStrongSkippingMode = !off.report.isSkippable

/-- A node of a tree that is strengthened is alike but for skipping. -/
theorem alikeButSkipping_mapNodes {node : CascadeNode}
    (weak : node.report.isSkippableInStrongSkippingMode = false) :
    node.AlikeButSkipping (node.mapNodes strengthened) := by
  have children : (node.mapNodes strengthened).children.map (·.id) = node.children.map (·.id) := by
    rw [children_mapNodes relabels_strengthened, map_id_mapNodes relabels_strengthened.id]
  have report (fine : node.error = none) :
      (node.mapNodes strengthened).report = node.report.strengthened := by
    rw [mapNodes_eq, strengthened]
    exact if_pos fine
  have failed (fails : node.error ≠ none) :
      (node.mapNodes strengthened).report = node.report := by
    rw [mapNodes_eq, strengthened]
    exact if_neg fails
  have error : (node.mapNodes strengthened).error = node.error := by
    rw [mapNodes_eq, strengthened]
  have alike {α : Type} (field : CallableReport → α)
      (kept : field node.report.strengthened = field node.report) :
      field (node.mapNodes strengthened).report = field node.report := by
    by_cases fine : node.error = none
    · rw [report fine, kept]
    · rw [failed fine]
  constructor
  case id => rw [mapNodes_eq, strengthened]
  case depth => rw [mapNodes_eq, strengthened]
  case truncation => rw [mapNodes_eq, strengthened]
  case error => exact error
  case children => exact children
  case names => exact ⟨alike (·.id) rfl, alike (·.name) rfl, alike (·.qualifiedName) rfl⟩
  case parameters => exact alike (·.parameters) rfl
  case receivers => exact alike (·.receivers) rfl
  case restartable => exact alike (·.isRestartable) rfl
  case readonly => exact alike (·.isReadonly) rfl
  case weak => exact weak
  case skippable =>
    intro fine
    rw [report (error ▸ fine), CallableReport.strengthened]
  case strong =>
    intro fine
    rw [report (error ▸ fine), CallableReport.strengthened]

end CascadeNode

namespace CascadeSource

variable (model : TypeModel) (catalog : Catalog) (policy : Policy) (calls : CallModel)

/-- What a walk over the callables of a model asks for, where inputs are compared by identity or
are not. -/
def comparing (byIdentity : Bool) : CascadeSource :=
  ofJudge ⟨model, catalog, policy.comparing byIdentity⟩ calls

/-- At a single node, comparing by identity changes the report only. -/
theorem bareNode_comparing (id : String) (depth : Nat) :
    (comparing model catalog policy calls true).bareNode id depth =
      ((comparing model catalog policy calls false).bareNode id depth).strengthened := by
  rw [comparing, comparing, bareNode_ofJudge, bareNode_ofJudge]
  rcases calls.resolveCallable id with fault | callable?
  · rfl
  · cases callable? with
    | none => rfl
    | some callable =>
      dsimp only
      rw [show Judge.freshGuard ⟨model, catalog, policy.comparing true⟩ =
        Judge.freshGuard ⟨model, catalog, policy.comparing false⟩ from rfl,
        Judge.reportOn_comparing]
      rfl

theorem carries_comparing :
    Carries CascadeNode.strengthened (comparing model catalog policy calls false)
      (comparing model catalog policy calls true) := by
  constructor
  · intro id depth truncation
    rw [bareNode_comparing]
    rfl
  · intro id depth tree
    rw [bareNode_comparing]
    rfl

/-- Where inputs are not compared by identity, nothing is skipped because of it. -/
theorem weak_comparing (id : String) (depth : Nat) :
    ((comparing model catalog policy calls false).bareNode id
      depth).report.isSkippableInStrongSkippingMode = false := by
  rw [comparing, bareNode_ofJudge]
  rcases calls.resolveCallable id with fault | callable?
  · rfl
  · cases callable? <;> rfl

/-- Where inputs are compared by identity, a callable cannot be skipped exactly where it could not
be analyzed. -/
theorem unskippable_comparing (id : String) (depth : Nat) :
    (!((comparing model catalog policy calls true).bareNode id depth).report.isSkippable) =
      ((comparing model catalog policy calls true).bareNode id depth).error.isSome := by
  rw [comparing, bareNode_ofJudge]
  rcases calls.resolveCallable id with fault | callable?
  · rfl
  · cases callable? <;> rfl

end CascadeSource

namespace CascadeResult

/-- The node at a position, if the walk gave a tree with this position. -/
def at? (result : CascadeResult) (position : List Nat) : Option CascadeNode :=
  result.root.bind (·.at? position)

/-- The nodes that the walk gave. -/
def nodes (result : CascadeResult) : List CascadeNode := CascadeNode.nodesAll result.root.toList

end CascadeResult

namespace CascadeSource

variable {model : TypeModel} {catalog : Catalog} {policy : Policy} {calls : CallModel}
  {root : String} {requested : Option Number} {default : Number} {interruption : Interruption}

/-- Walks with and without comparing by identity have the same positions, with nodes there that
are alike but for skipping. -/
theorem rel_at?_comparing {off : CascadeResult}
    (walked : (comparing model catalog policy calls false).walk root requested default
      interruption = .ok off) (position : List Nat) :
    Option.Rel CascadeNode.AlikeButSkipping (off.at? position)
      ((off.mapNodes CascadeNode.strengthened).at? position) := by
  unfold CascadeResult.at? CascadeResult.mapNodes
  cases begun : off.root with
  | none => exact .none
  | some tree =>
    rw [Option.map_some, Option.bind_some, Option.bind_some,
      CascadeNode.at?_mapNodes CascadeNode.relabels_strengthened]
    cases reached : tree.at? position with
    | none => exact .none
    | some node =>
      refine .some (CascadeNode.alikeButSkipping_mapNodes ?_)
      rw [(walk_label walked begun reached 0).1, weak_comparing]

/-- Of the nodes of a walk that compares by identity, those cannot be skipped that have an
error. -/
theorem countP_unskippable_comparing {on : CascadeResult}
    (walked : (comparing model catalog policy calls true).walk root requested default
      interruption = .ok on) :
    on.nodes.countP (!·.report.isSkippable) = on.nodes.countP (·.error.isSome) := by
  refine List.countP_congr fun node member => ?_
  rw [← Bool.eq_iff_iff]
  unfold CascadeResult.nodes at member
  cases begun : on.root with
  | none =>
    rw [begun] at member
    cases member
  | some tree =>
    rw [begun, Option.toList_some, CascadeNode.nodesAll_singleton] at member
    obtain ⟨position, reached⟩ := CascadeNode.mem_nodes_iff.mp member
    obtain ⟨report, error⟩ := walk_label walked begun reached 0
    rw [report, error, unskippable_comparing]

end CascadeSource

open CascadeSource in
/-- A walk under two policies that differ in nothing but whether inputs are compared by identity
gives the same tree, cancelled or not, but for what can be skipped. Where they are compared, what
cannot be skipped is what could not be analyzed. -/
theorem strong_skipping_keeps_classifications (model : TypeModel) (catalog : Catalog)
    (policy : Policy) (calls : CallModel) (root : String) (requested : Option Number)
    (default : Number) (interruption : Interruption) :
    ∃ off on,
      (comparing model catalog policy calls false).walk root requested default interruption =
        .ok off ∧
      (comparing model catalog policy calls true).walk root requested default interruption =
        .ok on ∧
      off.complete = on.complete ∧
      (∀ position, Option.Rel CascadeNode.AlikeButSkipping (off.at? position) (on.at? position)) ∧
      (CascadeSummary.ofTree on.root).unskippableCount = on.nodes.countP (·.error.isSome) := by
  obtain ⟨off, walked⟩ :=
    exists_walk (comparing model catalog policy calls false) root requested default interruption
  have strengthened : (comparing model catalog policy calls true).walk root requested default
      interruption = .ok (off.mapNodes CascadeNode.strengthened) := by
    rw [walk_relabelled (carries_comparing model catalog policy calls)
      CascadeNode.relabels_strengthened, walked]
    rfl
  refine ⟨off, _, walked, strengthened, rfl, rel_at?_comparing walked, ?_⟩
  rw [CascadeSummary.ofTree_eq]
  exact countP_unskippable_comparing strengthened

/-- The walk over the callables of a snapshot is such a walk. -/
example (snapshot : Snapshot) (catalog : Catalog) (policy : Policy) (byIdentity : Bool) :
    CascadeSource.ofSnapshot snapshot catalog (policy.comparing byIdentity) =
      .comparing (ProgramModel.ofSnapshot snapshot).typeModel catalog policy
        (ProgramModel.ofSnapshot snapshot).callModel byIdentity :=
  rfl

end StableTypes
