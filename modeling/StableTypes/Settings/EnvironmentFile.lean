import StableTypes.Regex.Parser
import StableTypes.Regex.Search
import StableTypes.Settings.Basic

/-!
# Environment files

A file of variables, one entry on a line: a name, an equals sign and a value,
which may stand in quotes and then reach over several lines. A word `export` in
front, comments and lines of other forms do not count. Variables that the
environment has already are left as they are.
-/

namespace StableTypes.EnvironmentFile

/-- An expression over lines; a pattern that spells none matches nothing useful. -/
def linesOf (pattern : String) : Regex :=
  ((Regex.parse? (Text.units pattern)).getD .empty).inLines

/-- An entry: the name is the first capture and the written value the second. -/
def entry : Regex :=
  linesOf ("^\\s*(?:export\\s+)?([\\w.-]+)(?:\\s*=\\s*?|:\\s+?)"
    ++ "(\\s*'(?:\\\\'|[^'])*'|\\s*\"(?:\\\\\"|[^\"])*\"|\\s*`(?:\\\\`|[^`])*`|[^#\\r\\n]+)?"
    ++ "\\s*(?:#.*)?$")

/-- A text in quotes of one kind: the second capture is what they enclose. -/
def quoted : Regex := linesOf "^(['\"`])([\\s\\S]*)\\1$"

/-- Line ends of every kind as line feeds. -/
def unifyLineEnds : List Char → List Char
  | [] => []
  | '\r' :: '\n' :: rest => '\n' :: unifyLineEnds rest
  | '\r' :: rest => '\n' :: unifyLineEnds rest
  | c :: rest => c :: unifyLineEnds rest

/-- Line ends that are spelled as escapes, written out. -/
def writeOutLineEnds : List Char → List Char
  | [] => []
  | '\\' :: 'n' :: rest => '\n' :: writeOutLineEnds rest
  | '\\' :: 'r' :: rest => '\r' :: writeOutLineEnds rest
  | c :: rest => c :: writeOutLineEnds rest

/-- The captured text of an index, empty if there is none. -/
def capturedText (place : Regex.Cursor) (index : Nat) : List Nat :=
  (place.captured? index).getD []

/-- The value that is written in an entry. Quotes around it are dropped, and only
between double quotes are escapes written out. -/
def valueOf (written : List Nat) : String :=
  let trimmed := Text.trim (Text.ofUnits written)
  let value := Text.ofUnits
    (quoted.replaceAll (fun place => capturedText place 2) (Text.units trimmed))
  if trimmed.toList.head? = some '"' then String.ofList (writeOutLineEnds value.toList) else value

/-- The variables of a file; of two with one name the last counts. -/
def parse (content : String) : Environment :=
  let text := Text.units (String.ofList (unifyLineEnds content.toList))
  Table.ofList ((entry.matchesIn text).map fun (_, place) =>
    (Text.ofUnits (capturedText place 1), valueOf (capturedText place 2)))

/-- The environment with the variables of a file that it does not have. -/
def extend (environment : Environment) (content : String) : Environment :=
  environment ++ (parse content).filter fun (name, _) => (Table.get? name environment).isNone

end StableTypes.EnvironmentFile
