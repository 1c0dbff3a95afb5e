import StableTypes.Regex.Parser
import StableTypes.Regex.Matching

/-!
# Glob patterns

A glob over dotted names: two asterisks stand for any run of characters, one
asterisk for a run inside a segment. Dots and dollar signs stand for themselves,
and all other text keeps the meaning it has in a regular expression. A glob is
cut into pieces once, from the left, and each piece is written as its part of an
anchored expression, which may turn out to be none.
-/

namespace StableTypes.Glob

/-- A piece of a glob. -/
inductive Piece where
  /-- Any run of characters. -/
  | anyRun
  /-- A run of characters without a dot. -/
  | segmentRun
  /-- A character that stands for itself. -/
  | itself (c : Char)
  /-- A character with its meaning in a regular expression. -/
  | plain (c : Char)
deriving DecidableEq

/-- The piece of a character that is no asterisk. The null character stands for
any run. -/
def pieceOf (c : Char) : Piece :=
  if c = '.' ∨ c = '$' then .itself c
  else if c = '\x00' then .anyRun
  else .plain c

/-- The pieces of a glob; asterisks pair from the left. -/
def pieces : List Char → List Piece
  | [] => []
  | '*' :: '*' :: rest => .anyRun :: pieces rest
  | '*' :: rest => .segmentRun :: pieces rest
  | c :: rest => pieceOf c :: pieces rest

/-- A piece as part of a regular expression. -/
def Piece.source : Piece → List Char
  | .anyRun => ['.', '*']
  | .segmentRun => ['[', '^', '.', ']', '*']
  | .itself c => ['\\', c]
  | .plain c => [c]

/-- The text of the anchored expression of a glob. -/
def sourceChars (pattern : String) : List Char :=
  ['^', '(', '?', ':'] ++ (pieces pattern.toList).flatMap Piece.source ++ [')', '$']

/-- The anchored expression of a glob, if its text spells one. -/
def expression? (pattern : String) : Option Regex :=
  Regex.parse? ((sourceChars pattern).flatMap Text.unitsOf)

/-- Some part of a name matches an expression. -/
def accepts (expression : Regex) (name : String) : Bool :=
  expression.test (Text.units name)

/-- The written form of an expression text between slashes: a slash outside a
class gets a backslash and a line end is spelled out. `escaped` tells that a
backslash came before, `inClass` that a class is open. -/
def display (escaped inClass : Bool) : List Char → List Char
  | [] => []
  | c :: rest =>
    let after := display (c = '\\' && !escaped)
      (if escaped then inClass else if c = '[' then true else if c = ']' then false else inClass)
      rest
    let backslash := if escaped then [] else ['\\']
    match c with
    | '\n' => backslash ++ 'n' :: after
    | '\r' => backslash ++ 'r' :: after
    | '\u2028' => backslash ++ ['u', '2', '0', '2', '8'] ++ after
    | '\u2029' => backslash ++ ['u', '2', '0', '2', '9'] ++ after
    | '/' => if escaped || inClass then c :: after else '\\' :: c :: after
    | _ => c :: after

/-- The written form of the anchored expression of a glob. -/
def source (pattern : String) : String :=
  String.ofList (display false false (sourceChars pattern))

end StableTypes.Glob
