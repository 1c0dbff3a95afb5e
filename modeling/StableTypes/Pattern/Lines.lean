import StableTypes.Text.Blank

/-!
# Pattern files

One pattern on a line. Blanks around a pattern do not count, and neither do blank
lines and lines that start with a hash sign. A carriage return before a line feed
is a blank at the end of its line.
-/

namespace StableTypes.PatternLines

/-- A trimmed line holds a pattern. -/
def isPattern (line : List Char) : Bool := !line.isEmpty && line.head? ≠ some '#'

/-- The patterns of a text, as character lists. -/
def patternChars (text : List Char) : List (List Char) :=
  ((Text.splitChars (· == '\n') text).map Text.trimChars).filter isPattern

/-- The patterns of a text. -/
def parse (text : String) : List String := (patternChars text.toList).map String.ofList

/-- The patterns of a file that may be missing. -/
def ofFile (content : Option String) : List String := (content.map parse).getD []

end StableTypes.PatternLines
