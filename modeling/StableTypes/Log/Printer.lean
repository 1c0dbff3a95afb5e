import StableTypes.Json.Printer
import StableTypes.Log.Basic
import StableTypes.Text.Units

/-!
# Log lines

A record on the console is its time, its level in colour and its message. The
component follows unless it is the service itself, and then the other details as
a document, unless they are long.
-/

namespace StableTypes

/-- The number of the terminal colour of a level. -/
def LogLevel.colour : LogLevel → String
  | .error => "31"
  | .warn => "33"
  | .info => "32"
  | .http => "32"
  | .verbose => "36"
  | .debug => "34"
  | .silly => "35"

/-- The level goes to the stream for errors. -/
def LogLevel.isDiagnostic (level : LogLevel) : Bool :=
  [LogLevel.error, .warn, .info, .debug].contains level

namespace LogRecord

/-- The level of a record in its colour. -/
def colouredLevel (record : LogRecord) : String :=
  "\x1b[" ++ record.level.colour ++ "m" ++ record.level.name ++ "\x1b[39m"

/-- The component of a record between brackets. -/
def componentText (record : LogRecord) : String :=
  match (Table.get? "component" record.details).filter isTelling with
  | some (.string name) => if name = serviceName then "" else " (" ++ name ++ ")"
  | some other => " (" ++ inText other ++ ")"
  | none => ""

/-- The names that are not shown among the details. -/
def hiddenNames : List String := ["component", "level", "message", "service", "timestamp"]

/-- The details of a record that are shown with it. -/
def shownDetails (record : LogRecord) : List (String × Json) :=
  record.details.filter fun (name, _) => !hiddenNames.contains name

/-- From this length on the details are left out. -/
def detailsLimit : Nat := 200

/-- The details of a record behind a blank, unless they are long or missing. -/
def detailsText (record : LogRecord) : String :=
  let shown := record.shownDetails
  let text := (Json.object shown).compact
  if shown.isEmpty || detailsLimit ≤ Text.unitLength text then "" else " " ++ text

/-- The line of a record, with the time it was made. -/
def line (time : String) (record : LogRecord) : String :=
  time ++ " [" ++ record.colouredLevel ++ "]: " ++ record.message ++ record.componentText
    ++ record.detailsText

end LogRecord

end StableTypes
