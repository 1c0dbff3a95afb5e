import StableTypes.Json.Basic
import StableTypes.Number.Decimal
import StableTypes.Settings.Basic

/-!
# Log records

A record has a level, a message and details by name. A component that logs puts
its name into its records, and every record names the service; the details given
with a call may replace both. A sink takes the records that are at least as
severe as its threshold, and takes none if the threshold is no level.
-/

namespace StableTypes

/-- How severe a record is. -/
inductive LogLevel where
  /-- A failure. -/
  | error
  /-- Something that may be wrong. -/
  | warn
  /-- Something worth telling. -/
  | info
  /-- A request. -/
  | http
  /-- More than is worth telling. -/
  | verbose
  /-- For whoever looks for a mistake. -/
  | debug
  /-- Anything at all. -/
  | silly
deriving DecidableEq, Inhabited

namespace LogLevel

/-- The levels with their names, the most severe first. -/
def names : List (String × LogLevel) :=
  [("error", .error), ("warn", .warn), ("info", .info), ("http", .http), ("verbose", .verbose),
    ("debug", .debug), ("silly", .silly)]

/-- The name of a level. -/
def name : LogLevel → String
  | .error => "error"
  | .warn => "warn"
  | .info => "info"
  | .http => "http"
  | .verbose => "verbose"
  | .debug => "debug"
  | .silly => "silly"

/-- The place of a level; more severe levels have lower places. -/
def rank : LogLevel → Nat
  | .error => 0
  | .warn => 1
  | .info => 2
  | .http => 3
  | .verbose => 4
  | .debug => 5
  | .silly => 6

/-- A threshold, given by name, lets a level pass. -/
def passes (level : LogLevel) (threshold : String) : Bool :=
  (names.lookup threshold).any fun least => level.rank ≤ least.rank

end LogLevel

/-- A request to log. -/
structure LogCall where
  /-- Its level. -/
  level : LogLevel
  /-- Its message. -/
  message : String
  /-- The component that logs. -/
  component : Option String
  /-- Details given with the call. -/
  details : Option (List (String × Json))

/-- What is logged. -/
structure LogRecord where
  /-- Its level. -/
  level : LogLevel
  /-- Its message. -/
  message : String
  /-- Its details, those of the component and the service included. -/
  details : List (String × Json)

namespace LogRecord

/-- The name of the service, which every record carries. -/
def serviceName : String := "stability-analyzer"

/-- A message has a mark that asks for details to be filled in. -/
def hasMark : List Char → Bool
  | '%' :: c :: rest =>
    ['s', 'c', 'd', 'j', 'i', 'f', 'o', 'O', '%'].contains c || hasMark (c :: rest)
  | _ :: rest => hasMark rest
  | [] => false

mutual

/-- A detail as part of a text. -/
def inText : Json → String
  | .null => "null"
  | .bool value => if value then "true" else "false"
  | .number value => value.text
  | .string value => value
  | .array items => ",".intercalate (itemsInText items)
  | .object _ => "[object Object]"
termination_by structural document => document

/-- The items of a list as parts of a text; a null item leaves none. -/
def itemsInText : List Json → List String
  | [] => []
  | .null :: items => "" :: itemsInText items
  | item :: items => inText item :: itemsInText items
termination_by structural items => items

end

/-- A detail that says something. -/
def isTelling : Json → Bool
  | .null => false
  | .bool value => value
  | .number value => !value.isZero
  | .string value => value ≠ ""
  | _ => true

/-- The message of a call; a message among its details is put behind. -/
def fullMessage (message : String) (details : List (String × Json)) : String :=
  match (Table.get? "message" details).filter isTelling with
  | some more => message ++ " " ++ inText more
  | none => message

/-- The record of a call. A message with a mark gets no details, because no
details are ever filled in. -/
def ofCall (call : LogCall) : LogRecord :=
  let given := if hasMark call.message.toList then [] else call.details.getD []
  let own := Json.optional "component" (call.component.map .string)
    ++ [("service", .string serviceName)]
  { level := call.level
    message := fullMessage call.message given
    details := Json.ofSettings (own ++ given) }

/-- A record as a document, with the time it was made. -/
def toJson (time : String) (record : LogRecord) : Json :=
  .object (Json.ofSettings (record.details
    ++ [("level", .string record.level.name), ("message", .string record.message),
      ("timestamp", .string time)]))

end LogRecord

/-- Where records go. -/
structure LogSinks where
  /-- The threshold of the log. -/
  threshold : String
  /-- Nothing is logged. -/
  silent : Bool
  /-- The console has a threshold of its own. -/
  consoleThreshold : String
  /-- The file that is logged to. -/
  file : Option String

namespace LogSinks

/-- The sinks that settings ask for. In production the console shows warnings and
errors only, and in tests nothing is logged. -/
def ofSettings (settings : Settings) : LogSinks where
  threshold := settings.logLevel
  silent := settings.mode = "test"
  consoleThreshold := if settings.mode = "production" then "warn" else settings.logLevel
  file := settings.logFile.filter (· ≠ "")

/-- The names of the sinks in the order they were added. A file has a second one
beside it for errors. -/
def names (sinks : LogSinks) : List String :=
  (if sinks.file.isSome then ["file", "file"] else []) ++ ["console"]

/-- The records that pass a threshold, unless nothing is logged. -/
def passing (sinks : LogSinks) (threshold : String) (records : List LogRecord) : List LogRecord :=
  if sinks.silent then [] else records.filter (·.level.passes threshold)

/-- The records on the console. -/
def console (sinks : LogSinks) (records : List LogRecord) : List LogRecord :=
  sinks.passing sinks.consoleThreshold records

/-- The records in the file, if there is one. -/
def fileRecords? (sinks : LogSinks) (records : List LogRecord) : Option (List LogRecord) :=
  sinks.file.map fun _ => sinks.passing sinks.threshold records

/-- The records in the file for errors, if there is one. -/
def errorRecords? (sinks : LogSinks) (records : List LogRecord) : Option (List LogRecord) :=
  sinks.file.map fun _ => sinks.passing LogLevel.error.name records

end LogSinks

end StableTypes
