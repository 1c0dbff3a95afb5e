import StableTypes.Proofs.CallPaths
import StableTypes.Proofs.GuardedOutcome

/-!
# The report behind an analyzed callable

The inputs of a callable are classified one after the other on one guard. Each of them
leaves the guard as it was, so each is reported on as it would be alone, and analyzing a
callable that is known never fails. So the nodes of a walk over the callables of a model
are known from the callables alone.
-/

namespace StableTypes.Judge

/-- The report on a type that is classified on a guard. -/
def typeReportOn (judge : Judge) (guard : SignatureGuard) (type : TypeRef) : TypeReport :=
  .ofOutcome type (judge.outcomeOn guard type)

/-- The report on a callable whose inputs are classified on a guard. -/
def reportOn (judge : Judge) (guard : SignatureGuard) (callable : Callable) : CallableReport :=
  judge.callableReport callable
    (callable.parameters.map fun input => ⟨input.name, judge.typeReportOn guard input.type⟩)
    (callable.receivers.map fun input => ⟨input.kind, judge.typeReportOn guard input.type⟩)

variable (judge : Judge) (guard : SignatureGuard)

/-- Reporting on a type leaves the guard as it was. -/
theorem reportType_runOn (type : TypeRef) :
    (judge.reportType type).runOn guard = (.ok (judge.typeReportOn guard type), guard) := by
  rw [reportType, Analysis.runOn_bind, classify_runOn]
  rfl

/-- Every parameter is reported on as if it were the only one. -/
theorem reportParameters_runOn (parameters : List Parameter) :
    (judge.reportParameters parameters).runOn guard =
      (.ok (parameters.map fun input => ⟨input.name, judge.typeReportOn guard input.type⟩),
        guard) := by
  induction parameters with
  | nil => rfl
  | cons input rest ih =>
    rw [reportParameters, Analysis.runOn_bind, reportType_runOn]
    dsimp only
    rw [Analysis.runOn_bind, ih]
    rfl

/-- Every receiver is reported on as if it were the only one. -/
theorem reportReceivers_runOn (receivers : List Receiver) :
    (judge.reportReceivers receivers).runOn guard =
      (.ok (receivers.map fun input => ⟨input.kind, judge.typeReportOn guard input.type⟩),
        guard) := by
  induction receivers with
  | nil => rfl
  | cons input rest ih =>
    rw [reportReceivers, Analysis.runOn_bind, reportType_runOn]
    dsimp only
    rw [Analysis.runOn_bind, ih]
    rfl

/-- Reporting on a callable always comes to an end and leaves the guard as it was. -/
theorem reportCallable_runOn (callable : Callable) :
    (judge.reportCallable callable).runOn guard = (.ok (judge.reportOn guard callable), guard) := by
  rw [reportCallable, Analysis.runOn_bind, reportParameters_runOn]
  dsimp only
  rw [Analysis.runOn_bind, reportReceivers_runOn]
  rfl

/-- Analyzing an id fails only where looking it up fails, and gives no report only where it is
not known. -/
theorem analyzeCallable_eq (calls : CallModel) (id : String) :
    judge.analyzeCallable calls id =
      (calls.resolveCallable id).map (Option.map (judge.reportOn judge.freshGuard)) := by
  unfold analyzeCallable
  cases calls.resolveCallable id with
  | error fault => rfl
  | ok callable? =>
    cases callable? with
    | none => rfl
    | some callable =>
      dsimp only
      rw [reportCallable_runOn]
      rfl

end StableTypes.Judge

namespace StableTypes.CascadeSource

/-- What a walk over the callables of a model asks for. -/
def ofJudge (judge : Judge) (calls : CallModel) : CascadeSource :=
  ⟨judge.analyzeCallable calls, calls.callees⟩

/-- A node without its children, for a callable of a model. -/
theorem bareNode_ofJudge (judge : Judge) (calls : CallModel) (id : String) (depth : Nat) :
    (ofJudge judge calls).bareNode id depth =
      match calls.resolveCallable id with
      | .ok (some callable) =>
        { id, depth, report := judge.reportOn judge.freshGuard callable, children := [] }
      | .ok none =>
        { id, depth, report := .placeholder id, children := [],
          error := some "callable not found" }
      | .error fault =>
        { id, depth, report := .placeholder id, children := [], error := some fault.message } := by
  unfold bareNode ofJudge
  dsimp only
  rw [Judge.analyzeCallable_eq]
  rcases calls.resolveCallable id with fault | callable?
  · rfl
  · cases callable? <;> rfl

end StableTypes.CascadeSource
