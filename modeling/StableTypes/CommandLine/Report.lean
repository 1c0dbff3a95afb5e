import StableTypes.CallableReport.Writer
import StableTypes.Cascade.Printer
import StableTypes.Cascade.Walk
import StableTypes.Cascade.Writer
import StableTypes.CommandLine.Request
import StableTypes.Json.Printer
import StableTypes.Number.Leading
import StableTypes.ProgramModel
import StableTypes.Settings.Basic
import StableTypes.TypeRef.Builder

/-!
# Answers of the commands

The answer of a command about a program that is loaded: lines for a reader, or
an indented document. Only ids and depths can be wrong here.
-/

namespace StableTypes

/-- A program with everything that judging it needs. -/
structure Workbench where
  /-- The program. -/
  model : ProgramModel
  /-- Who judges its types. -/
  judge : Judge
  /-- How far calls are followed where nothing else is asked for. -/
  defaultDepth : Number

/-- Why a command has no answer although its program is loaded. -/
inductive RequestError where
  /-- A query failed. -/
  | failed (fault : Fault)
  /-- There is no such callable. -/
  | unknownCallable (id : String)
  /-- The depth is no number. -/
  | badDepth (text : String)
deriving DecidableEq

/-- What is wrong, in one line. -/
def RequestError.message : RequestError → String
  | .failed fault => fault.message
  | .unknownCallable id => s!"Callable not found: {id}"
  | .badDepth text => s!"Invalid --max-depth value: {text}"

/-- A report on a callable as lines. -/
def CallableReport.lines (report : CallableReport) : List String :=
  let input (name : String) (type : TypeReport) : List String :=
    ["  " ++ name ++ ": " ++ type.type ++ " " ++ type.verdict.name, "    " ++ type.reason]
  [report.qualifiedName ++ (if report.isSkippable then " [skippable]" else " [not skippable]"),
    "  restartable: " ++ toString report.isRestartable ++ ", readonly: "
      ++ toString report.isReadonly
      ++ (if report.isSkippableInStrongSkippingMode then ", skippable via strong skipping" else "")]
    ++ report.receivers.flatMap (fun receiver =>
      input ("<" ++ receiver.kind.name ++ " receiver>") receiver.report)
    ++ report.parameters.flatMap fun parameter => input parameter.name parameter.report

namespace Workbench

/-- The classification of a declaration, on a guard of its own. -/
def classify (bench : Workbench) (id : String) (nullable : Bool) : TypeRef × Classification :=
  let type := TypeRef.ofClass id (some []) { nullable := some nullable }
  match (bench.judge.classify type).runOn bench.judge.freshGuard with
  | (.ok outcome, _) => (type, outcome)
  | (.error fault, _) => (type, Judge.failureOutcome type.signature fault)

/-- The answer about a declaration. -/
def answerClassify (bench : Workbench) (request : Request) : String :=
  let (type, outcome) := bench.classify request.id request.nullable
  if request.json then
    (Json.object [("type", .string type.render), ("classification", outcome.toJson)]).indented
  else
    type.render ++ ": " ++ outcome.verdict.name ++ "\n  " ++ outcome.describe

/-- The answer about a callable. -/
def answerCallable (bench : Workbench) (request : Request) : Except RequestError String :=
  match bench.judge.analyzeCallable bench.model.callModel request.id with
  | .ok (some report) =>
    .ok (if request.json then report.toJson.indented else "\n".intercalate report.lines)
  | .ok none => .error (.unknownCallable request.id)
  | .error fault => .error (.failed fault)

/-- The depth that a text asks for; an empty one asks for none. -/
def readDepth (text : String) : Except RequestError (Option Number) :=
  if text = "" then .ok none
  else
    match Number.leading? text with
    | some depth => .ok (some depth)
    | none => .error (.badDepth text)

/-- The walk from a callable. -/
def walk (bench : Workbench) (id : String) (requested : Option Number) :
    Except Fault CascadeResult :=
  let calls := bench.model.callModel
  CascadeSource.walk ⟨bench.judge.analyzeCallable calls, calls.callees⟩ id requested
    bench.defaultDepth .never

/-- The result of a walk as lines. The time that a walk takes is not measured. -/
def cascadeText (result : CascadeResult) : String :=
  let summary := (CascadeSummary.ofTree result.root).toNumbers
  CascadeNode.textOf result.root ++ "\n\n" ++ summary.text result.complete
    ++ "\nCompleted in 0ms"

/-- The result of a walk as a document. The time that a walk takes is not measured. -/
def cascadeJson (result : CascadeResult) : Json :=
  .object [("root", CascadeNode.jsonOf result.root),
    ("summary", (CascadeSummary.ofTree result.root).toJson), ("complete", .bool result.complete),
    ("executionTimeMs", .nat 0)]

/-- The answer about the calls from a callable. The default depth takes part as
its text. -/
def answerCascade (bench : Workbench) (request : Request) : Except RequestError String := do
  if (bench.model.callable? request.id).isNone then throw (.unknownCallable request.id)
  let requested ← readDepth (request.maxDepth.getD bench.defaultDepth.text)
  let result ← (bench.walk request.id requested).mapError RequestError.failed
  return if request.json then (cascadeJson result).indented else cascadeText result

/-- The answer of a command. -/
def answer (bench : Workbench) (request : Request) : Except RequestError String :=
  match request.command with
  | .classify => .ok (bench.answerClassify request)
  | .callable => bench.answerCallable request
  | .cascade => bench.answerCascade request

end Workbench

end StableTypes
