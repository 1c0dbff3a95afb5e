import StableTypes.Catalog.Shipped
import StableTypes.CommandLine.Report
import StableTypes.Files.Basic
import StableTypes.Files.Path
import StableTypes.Pattern.Lines
import StableTypes.Settings.EnvironmentFile
import StableTypes.Settings.Reader
import StableTypes.Snapshot.Reader

/-!
# Carrying out a command line

From the words of a command line and the environment to what the program prints.
The only effect is reading files, so everything is stated for any monad in which
files can be read. The settings are read before the words.
-/

namespace StableTypes

/-- What a run of the program prints, and how it ends. -/
structure RunResult where
  /-- Zero if the run was a success. -/
  exitCode : Nat := 0
  /-- What goes to the output stream. -/
  output : String := ""
  /-- What goes to the stream for errors. -/
  diagnostics : String := ""
deriving DecidableEq, Inhabited

/-- Why a command fails. -/
inductive CommandError where
  /-- A file cannot be read. -/
  | file (error : FileError)
  /-- A file holds no snapshot. -/
  | snapshot (failure : Snapshot.Failure)
  /-- The request makes no sense for the program. -/
  | request (error : RequestError)

namespace CommandError

/-- What is wrong, in one line. -/
def message : CommandError → String
  | .file error => error.message
  | .snapshot failure => failure.message
  | .request error => error.message

/-- What is wrong, with a line for each issue. -/
def lines (error : CommandError) : List String :=
  error.message ::
    match error with
    | .snapshot failure => failure.issues.map ("  - " ++ ·)
    | _ => []

end CommandError

namespace Command

/-- What is said about a command that failed. -/
def failureLabel : Command → String
  | .classify => "Classification failed"
  | .callable => "Callable analysis failed"
  | .cascade => "Cascade analysis failed"

end Command

namespace RunResult

/-- What the program says when it starts to load. -/
def loadingLine : String := "- Loading snapshot...\n"

/-- The result of a command. Where the answer is a document, nothing but it and
the error is printed. -/
def ofAnswer (request : Request) : Except CommandError String → RunResult
  | .ok answer => {
      output := answer ++ "\n"
      diagnostics := if request.json then "" else loadingLine }
  | .error error => {
      exitCode := 1
      diagnostics := (if request.json then ""
        else loadingLine ++ "✖ " ++ request.command.failureLabel ++ "\n")
        ++ String.join (error.lines.map (· ++ "\n")) }

/-- How the program is used. -/
def usageText : String :=
  String.join ((["Usage: stability-analyzer [options] [command]", "", "Commands:"]
    ++ Command.names.map (fun entry => "  " ++ entry.2.usage)).map (· ++ "\n"))

end RunResult

namespace Request

/-- The policy of a request. The patterns to leave out come on top of those in the
settings, and so does comparing by identity. -/
def policy (request : Request) (settings : Settings) (customStable : List String) : Policy :=
  .ofOptions ((settings.policyOptions customStable).override {
    ignoredTypePatterns := some (settings.ignoredTypePatterns
      ++ Text.commaItems (request.ignored.getD ""))
    treatUnstableAsIdentityComparable := some (request.strongSkipping || settings.strongSkipping) })

variable {m : Type → Type} [Monad m]

/-- The patterns that the user vouches for; a file that cannot be read has none. -/
def customStable (request : Request) (settings : Settings) (files : Files m) :
    m (List String) := do
  match (request.stableTypesFile <|> settings.stableTypesFile).filter (· ≠ "") with
  | none => return []
  | some path => return PatternLines.ofFile (← files.read path).toOption

/-- Loads the program of a request. -/
def load (request : Request) (settings : Settings) (files : Files m) :
    m (Except CommandError Workbench) := do
  let path := Path.resolve files.directory request.snapshotPath
  match ← files.read path with
  | .error error => return .error (.file error)
  | .ok text =>
    match Snapshot.ofText path text with
    | .error failure => return .error (.snapshot failure)
    | .ok snapshot =>
      let model := ProgramModel.ofSnapshot snapshot
      let policy := request.policy settings (← request.customStable settings files)
      return .ok {
        model
        judge := ⟨model.typeModel, Catalog.shipped, policy⟩
        defaultDepth := settings.maxCascadeDepth }

/-- Carries out a request. -/
def run (request : Request) (settings : Settings) (files : Files m) : m RunResult := do
  let bench ← request.load settings files
  return .ofAnswer request (bench.bind fun bench =>
    (bench.answer request).mapError CommandError.request)

end Request

namespace Invocation

variable {m : Type → Type} [Monad m]

/-- The version of the program. -/
def versionText : String := "0.1.0"

/-- Carries out what a command line asks for. -/
def respond (settings : Settings) (files : Files m) : Invocation → m RunResult
  | .version => return { output := versionText ++ "\n" }
  | .help true => return { output := RunResult.usageText }
  | .help false => return { exitCode := 1, diagnostics := RunResult.usageText }
  | .unknownCommand words => return {
      exitCode := 1
      output := "See --help for a list of available commands.\n"
      diagnostics := "Invalid command: " ++ " ".intercalate words ++ "\n" }
  | .malformed error => return { exitCode := 1, diagnostics := error.message ++ "\n" }
  | .run request => request.run settings files

end Invocation

namespace RunResult

variable {m : Type → Type} [Monad m]

/-- The environment together with the file of variables in the working directory. -/
def fullEnvironment (environment : Environment) (files : Files m) : m Environment := do
  match ← files.read (Path.resolve files.directory ".env") with
  | .ok content => return EnvironmentFile.extend environment content
  | .error _ => return environment

/-- Carries out a command line. -/
def ofWords (environment : Environment) (files : Files m) (words : List String) :
    m (Except SettingsError RunResult) := do
  match Settings.ofEnvironment (← fullEnvironment environment files) with
  | .error error => return .error error
  | .ok settings => return .ok (← (Invocation.ofWords words).respond settings files)

end RunResult

end StableTypes
