import StableTypes.CallableReport
import StableTypes.Classification.Writer

/-!
# Writing reports on callables

A report as a document. What is known about the type of an input stands behind
the name or the kind of the input.
-/

namespace StableTypes

/-- The members of a report on a type. -/
def TypeReport.members (report : TypeReport) : List (String × Json) :=
  [("type", .string report.type), ("classification", report.classification.toJson),
    ("stability", .string report.verdict.name), ("reason", .string report.reason)]

/-- A report on a parameter as a document. -/
def ParameterReport.toJson (parameter : ParameterReport) : Json :=
  .object (("name", .string parameter.name) :: parameter.report.members)

/-- A report on a receiver as a document. -/
def ReceiverReport.toJson (receiver : ReceiverReport) : Json :=
  .object (("kind", .string receiver.kind.name) :: receiver.report.members)

/-- A report on a callable as a document. -/
def CallableReport.toJson (report : CallableReport) : Json :=
  .object [("id", .string report.id), ("name", .string report.name),
    ("qualifiedName", .string report.qualifiedName),
    ("isRestartable", .bool report.isRestartable), ("isSkippable", .bool report.isSkippable),
    ("isReadonly", .bool report.isReadonly),
    ("isSkippableInStrongSkippingMode", .bool report.isSkippableInStrongSkippingMode),
    ("parameters", .array (report.parameters.map ParameterReport.toJson)),
    ("receivers", .array (report.receivers.map ReceiverReport.toJson))]

end StableTypes
