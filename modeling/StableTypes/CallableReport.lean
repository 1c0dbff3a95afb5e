import StableTypes.Classifier.Guarded

/-!
# Reports on callables

Every parameter and every receiver of a callable is classified, all on one guard.
A callable can be skipped if all of them are stable, or if the policy compares
unstable inputs by identity.
-/

namespace StableTypes

/-- What is reported about the type of an input. -/
structure TypeReport where
  /-- The text of the type. -/
  type : String
  /-- Its classification. -/
  classification : Classification
  /-- What the classification amounts to. -/
  verdict : Verdict
  /-- The reason as a sentence. -/
  reason : String
deriving Inhabited

/-- What is reported about a parameter. -/
structure ParameterReport where
  /-- The name of the parameter. -/
  name : String
  /-- Its type. -/
  report : TypeReport
deriving Inhabited

/-- What is reported about a receiver. -/
structure ReceiverReport where
  /-- What the receiver is for. -/
  kind : ReceiverKind
  /-- Its type. -/
  report : TypeReport
deriving Inhabited

/-- What is reported about a callable. -/
structure CallableReport where
  /-- Its id. -/
  id : String
  /-- Its name. -/
  name : String
  /-- Its qualified name. -/
  qualifiedName : String
  /-- It can be started again on its own. -/
  isRestartable : Bool
  /-- It can be skipped when its inputs have not changed. -/
  isSkippable : Bool
  /-- It only reads. -/
  isReadonly : Bool
  /-- It can be skipped only because inputs are compared by identity. -/
  isSkippableInStrongSkippingMode : Bool
  /-- Its parameters in order. -/
  parameters : List ParameterReport
  /-- Its receivers in order. -/
  receivers : List ReceiverReport
deriving Inhabited

namespace CallableReport

/-- Everything about a callable that could not be analyzed is taken at its worst. -/
def placeholder (id : String) : CallableReport where
  id := id
  name := id
  qualifiedName := id
  isRestartable := true
  isSkippable := false
  isReadonly := false
  isSkippableInStrongSkippingMode := false
  parameters := []
  receivers := []

end CallableReport

/-- What is reported about a type with a given outcome. -/
def TypeReport.ofOutcome (type : TypeRef) (outcome : Classification) : TypeReport :=
  ⟨type.render, outcome, outcome.verdict, outcome.describe⟩

namespace Judge

/-- Classifies the type of an input and reports on it. -/
def reportType (judge : Judge) (type : TypeRef) : Analysis TypeReport := do
  return .ofOutcome type (← judge.classify type)

/-- Reports on parameters in order. -/
def reportParameters (judge : Judge) : List Parameter → Analysis (List ParameterReport)
  | [] => return []
  | parameter :: parameters => do
    let report ← judge.reportType parameter.type
    let reports ← judge.reportParameters parameters
    return ⟨parameter.name, report⟩ :: reports

/-- Reports on receivers in order. -/
def reportReceivers (judge : Judge) : List Receiver → Analysis (List ReceiverReport)
  | [] => return []
  | receiver :: receivers => do
    let report ← judge.reportType receiver.type
    let reports ← judge.reportReceivers receivers
    return ⟨receiver.kind, report⟩ :: reports

/-- The report on a callable whose inputs have been reported on. -/
def callableReport (judge : Judge) (callable : Callable) (parameters : List ParameterReport)
    (receivers : List ReceiverReport) : CallableReport :=
  let allStable := parameters.all (·.report.verdict = .stable)
    && receivers.all (·.report.verdict = .stable)
  let byIdentity := judge.policy.identityComparable
  { id := callable.id
    name := callable.name
    qualifiedName := callable.qualifiedName
    isRestartable := !judge.catalog.hasNonRestartableAnnotation callable.annotations
    isSkippable := byIdentity || allStable
    isReadonly := judge.catalog.hasReadOnlyAnnotation callable.annotations
    isSkippableInStrongSkippingMode := byIdentity && !allStable
    parameters := parameters
    receivers := receivers }

/-- Reports on a callable, parameters before receivers. -/
def reportCallable (judge : Judge) (callable : Callable) : Analysis CallableReport := do
  let parameters ← judge.reportParameters callable.parameters
  let receivers ← judge.reportReceivers callable.receivers
  return judge.callableReport callable parameters receivers

/-- Reports on the callable of an id, on a guard of its own. An id that is not
known has no report. -/
def analyzeCallable (judge : Judge) (calls : CallModel) (id : String) :
    Except Fault (Option CallableReport) :=
  match calls.resolveCallable id with
  | .error fault => .error fault
  | .ok none => .ok none
  | .ok (some callable) =>
    ((judge.reportCallable callable).runOn judge.freshGuard).1.map some

end Judge

end StableTypes
