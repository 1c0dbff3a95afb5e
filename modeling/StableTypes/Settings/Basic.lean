import StableTypes.Policy
import StableTypes.Table

/-!
# Settings

What the environment of the program decides: where and how much is logged, how
types are judged and how far calls are followed. A setting that is wrong is an
error that names its variable.
-/

namespace StableTypes

/-- The environment: values of variables by name. -/
abbrev Environment := Table String

/-- Why the settings cannot be read. -/
inductive SettingsError where
  /-- A variable must not be empty. -/
  | empty (variableName : String)
  /-- A variable is no truth value. -/
  | notBoolean (variableName : String)
  /-- A variable is no number. -/
  | notNumber (variableName : String)
deriving DecidableEq, Inhabited

/-- What is wrong, in one line. -/
def SettingsError.message : SettingsError → String
  | .empty variableName => s!"Environment variable {variableName} is required but not set"
  | .notBoolean variableName =>
    s!"Environment variable {variableName} must be a boolean (true/false)"
  | .notNumber variableName => s!"Environment variable {variableName} must be a valid number"

/-- What the environment decides. -/
structure Settings where
  /-- The least severe level that is logged. -/
  logLevel : String
  /-- The file that is logged to. -/
  logFile : Option String
  /-- Types are analyzed. -/
  checkEnabled : Bool
  /-- Inputs that are not stable are compared by identity. -/
  strongSkipping : Bool
  /-- Patterns of the names that are left out. -/
  ignoredTypePatterns : List String
  /-- The file with the patterns that the user vouches for. -/
  stableTypesFile : Option String
  /-- How many types may be under classification at once. -/
  maxRecursionDepth : Number
  /-- How far calls are followed where nothing else is asked for. -/
  maxCascadeDepth : Number
  /-- The mode of operation. -/
  mode : String
deriving Inhabited

/-- The policy options that settings decide, with the patterns of a file. -/
def Settings.policyOptions (settings : Settings) (customStable : List String) : PolicyOptions where
  enabled := settings.checkEnabled
  ignoredTypePatterns := settings.ignoredTypePatterns
  customStableTypePatterns := customStable
  treatUnstableAsIdentityComparable := settings.strongSkipping
  maxRecursionDepth := settings.maxRecursionDepth

end StableTypes
