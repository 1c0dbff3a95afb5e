import StableTypes.Number.Leading
import StableTypes.Settings.Basic

/-!
# Reading settings

Every setting has a default that counts when its variable is missing. An empty
variable also stands for the default, except where a text is needed, which must
not be empty. The first wrong variable in the order of the settings is reported.
-/

namespace StableTypes.Settings

/-- The text of a variable; an empty one is an error. -/
def readText (environment : Environment) (variableName default : String) :
    Except SettingsError String :=
  let value := (Table.get? variableName environment).getD default
  if value = "" then .error (.empty variableName) else .ok value

/-- A variable that says something, which an empty one does not. -/
def stated? (environment : Environment) (variableName : String) : Option String :=
  (Table.get? variableName environment).filter (· ≠ "")

/-- The truth values with the words that spell them. -/
def truthWords : List (String × Bool) :=
  [("true", true), ("1", true), ("yes", true), ("false", false), ("0", false), ("no", false)]

/-- The truth value of a variable, in letters of either case. -/
def readFlag (environment : Environment) (variableName : String) (default : Bool) :
    Except SettingsError Bool :=
  match stated? environment variableName with
  | none => .ok default
  | some value =>
    match truthWords.lookup (String.ofList ((Text.trim value).toList.map Char.toLower)) with
    | some truth => .ok truth
    | none => .error (.notBoolean variableName)

/-- The number that a variable starts with. -/
def readNumber (environment : Environment) (variableName : String) (default : Nat) :
    Except SettingsError Number :=
  match stated? environment variableName with
  | none => .ok (.ofNat default)
  | some value =>
    match Number.leading? value with
    | some number => .ok number
    | none => .error (.notNumber variableName)

/-- The items of a variable. -/
def readItems (environment : Environment) (variableName : String) : List String :=
  ((Table.get? variableName environment).map Text.commaItems).getD []

/-- The variables that settings are read from. -/
def variableNames : List String :=
  ["LOG_LEVEL", "LOG_FILE", "STABILITY_CHECK_ENABLED", "STABILITY_STRONG_SKIPPING",
    "STABILITY_IGNORED_TYPES", "STABILITY_CONFIG_FILE", "STABILITY_MAX_RECURSION_DEPTH",
    "CASCADE_MAX_DEPTH", "NODE_ENV"]

/-- The settings of an environment. -/
def ofEnvironment (environment : Environment) : Except SettingsError Settings := do
  let logLevel ← readText environment "LOG_LEVEL" "info"
  let checkEnabled ← readFlag environment "STABILITY_CHECK_ENABLED" true
  let strongSkipping ← readFlag environment "STABILITY_STRONG_SKIPPING" false
  let maxRecursionDepth ←
    readNumber environment "STABILITY_MAX_RECURSION_DEPTH" Policy.defaultRecursionDepth
  let maxCascadeDepth ← readNumber environment "CASCADE_MAX_DEPTH" 10
  let mode ← readText environment "NODE_ENV" "development"
  return {
    logLevel
    logFile := Table.get? "LOG_FILE" environment
    checkEnabled
    strongSkipping
    ignoredTypePatterns := readItems environment "STABILITY_IGNORED_TYPES"
    stableTypesFile := Table.get? "STABILITY_CONFIG_FILE" environment
    maxRecursionDepth
    maxCascadeDepth
    mode }

end StableTypes.Settings
