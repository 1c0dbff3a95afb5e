import StableTypes.CommandLine.Session

/-!
# The program

Reads the environment and the files of the machine, carries out the command line
and prints the result.
-/

namespace StableTypes.Machine

/-- Why the machine cannot read a file. -/
def fileErrorOf (path : String) : IO.Error → FileError
  | .noFileOrDirectory .. => .missing path
  | .inappropriateType .. => .isDirectory
  | error => .other (toString error)

/-- The text of a file of the machine. -/
def readFile (path : String) : IO (Except FileError String) := do
  try
    return .ok (← IO.FS.readFile path)
  catch error => return .error (fileErrorOf path error)

/-- The files of the machine. -/
def files : IO (Files IO) := do
  return ⟨(← IO.currentDir).toString, readFile⟩

/-- The variables of the machine that settings are read from. -/
def environment : IO Environment := do
  let values ← Settings.variableNames.mapM fun name => do
    return (← IO.getEnv name).map (name, ·)
  return values.filterMap id

end StableTypes.Machine

open StableTypes in
/-- Carries out a command line. -/
def main (words : List String) : IO UInt32 := do
  match ← RunResult.ofWords (← Machine.environment) (← Machine.files) words with
  | .error error =>
    IO.eprintln error.message
    return 1
  | .ok result =>
    IO.eprint result.diagnostics
    IO.print result.output
    return result.exitCode.toUInt32
