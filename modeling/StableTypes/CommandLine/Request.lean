import StableTypes.CommandLine.Arguments

/-!
# Requests

What a command line asks for. The program has three commands, each with a
snapshot and an id as operands and with options of its own beside the shared
ones. The version is told wherever an option for it stands among the words that
belong to the program as a whole.
-/

namespace StableTypes

/-- The three commands. -/
inductive Command where
  /-- Classifies a declaration. -/
  | classify
  /-- Reports on a callable. -/
  | callable
  /-- Walks the calls from a callable. -/
  | cascade
deriving DecidableEq, Inhabited

namespace Command

/-- The commands with their names. -/
def names : List (String × Command) :=
  [("classify", .classify), ("callable", .callable), ("cascade", .cascade)]

/-- The name of a command. -/
def name : Command → String
  | .classify => "classify"
  | .callable => "callable"
  | .cascade => "cascade"

/-- The names of the operands of a command. -/
def operands : Command → List String
  | .classify => ["snapshot", "declarationId"]
  | .callable => ["snapshot", "callableId"]
  | .cascade => ["snapshot", "callableId"]

/-- The options that every command understands. -/
def sharedOptions : List CommandOption :=
  [{ name := "ignore", value := some "patterns" },
    { name := "stable-config", value := some "file" }, { name := "strong-skipping" },
    { name := "json" }, { name := "verbose" }]

/-- The options that a command understands. -/
def options : Command → List CommandOption
  | .classify => { name := "nullable" } :: sharedOptions
  | .callable => sharedOptions
  | .cascade => { name := "max-depth", value := some "depth" } :: sharedOptions

/-- How a command is used, in one line. -/
def usage (command : Command) : String :=
  command.name ++ " [options] " ++ " ".intercalate (command.operands.map fun name => s!"<{name}>")

end Command

/-- What a command works on and how. -/
structure Request where
  /-- The command. -/
  command : Command
  /-- The path of the snapshot. -/
  snapshotPath : String
  /-- The id of a declaration or of a callable. -/
  id : String
  /-- The nullable form is asked for. -/
  nullable : Bool
  /-- Patterns of names to leave out, between commas. -/
  ignored : Option String
  /-- The file with the patterns that the user vouches for. -/
  stableTypesFile : Option String
  /-- Inputs that are not stable are compared by identity. -/
  strongSkipping : Bool
  /-- The answer is a document. -/
  json : Bool
  /-- How far calls are followed, as written. -/
  maxDepth : Option String
deriving Inhabited

/-- What a command line asks for. -/
inductive Invocation where
  /-- The version of the program. -/
  | version
  /-- How the program is used; without any words that is all there is to say. -/
  | help (asked : Bool)
  /-- A command that does not exist. -/
  | unknownCommand (words : List String)
  /-- Nothing that can be carried out. -/
  | malformed (error : UsageError)
  /-- A command to carry out. -/
  | run (request : Request)

namespace Invocation

/-- The option for the version. -/
def versionOption : CommandOption := { name := "version", letter := some 'V' }

/-- The option for help. -/
def helpOption : CommandOption := { name := "help", letter := some 'h' }

/-- Some word asks for help. -/
def asksForHelp (words : List String) : Bool := words.any fun word => word = "--help" || word = "-h"

/-- The request of a command whose words are sorted out. -/
def ofOperands (command : Command) (arguments : Arguments) : List String → Invocation
  | snapshotPath :: id :: _ => .run {
      command, snapshotPath, id
      nullable := arguments.has "nullable"
      ignored := arguments.value? "ignore"
      stableTypesFile := arguments.value? "stable-config"
      strongSkipping := arguments.has "strong-skipping"
      json := arguments.has "json"
      maxDepth := arguments.value? "max-depth" }
  | operands => .malformed (.missingOperand ((command.operands.drop operands.length).headD ""))

/-- What the words behind a command ask for: operands, and strays that the command
may understand. -/
def ofCommand (command : Command) (operands strays : List String) : Invocation :=
  match Arguments.scan command.options false strays with
  | .error error => .malformed error
  | .ok arguments =>
    match arguments.strays with
    | [] => ofOperands command arguments (operands ++ arguments.operands)
    | flag :: words =>
      if asksForHelp (flag :: words) then .help true
      else .malformed (Arguments.unknownOption
        (command.options ++ [helpOption, versionOption]) flag)

/-- What the words of a command line ask for. -/
def ofWords (words : List String) : Invocation :=
  match Arguments.scan [versionOption] false words with
  | .error error => .malformed error
  | .ok arguments =>
    if arguments.has versionOption.name then .version
    else
      match arguments.operands, arguments.strays with
      | [], [] => .help false
      | [], flag :: strays =>
        if asksForHelp (flag :: strays) then .help true
        else .malformed (Arguments.unknownOption [versionOption, helpOption] flag)
      | word :: operands, strays =>
        match Command.names.lookup word with
        | some command => ofCommand command operands strays
        | none =>
          if word = "help" || asksForHelp strays then .help true
          else .unknownCommand (word :: operands ++ strays)

end Invocation

end StableTypes
