import StableTypes.Text.Blank

/-!
# Regular expressions

Expressions over UTF-16 code units with captures, back references, lookaround
and greedy or lazy iteration. A set of units is a list of closed ranges. The
classes of digits, word units and blanks are such lists, and so are their
complements.
-/

namespace StableTypes

/-- A regular expression over code units. -/
inductive Regex where
  /-- The empty word. -/
  | empty
  /-- One given unit. -/
  | exactly (code : Nat)
  /-- One unit that lies in a range of the list, or in none of them. -/
  | oneOf (negated : Bool) (ranges : List (Nat × Nat))
  /-- One expression after the other. -/
  | seq (first second : Regex)
  /-- Either expression, the first one tried first. -/
  | alt (first second : Regex)
  /-- An expression whose match is remembered under a positive index. -/
  | capture (index : Nat) (body : Regex)
  /-- Repetition of an expression between `least` and `most` times. The captures
  with indices after `opened`, `held` of them, belong to the body. -/
  | iterate (least : Nat) (most : Option Nat) (greedy : Bool) (opened held : Nat) (body : Regex)
  /-- The start of the text or, with line marks, of a line. -/
  | atStart (lines : Bool)
  /-- The end of the text or, with line marks, of a line. -/
  | atEnd (lines : Bool)
  /-- An edge between a word unit and another one, or a place that is no edge. -/
  | wordEdge (negated : Bool)
  /-- The body matches from here on, or up to here, without being consumed. -/
  | look (ahead negated : Bool) (body : Regex)
  /-- What the capture of an index matched last. -/
  | back (index : Nat)
deriving Inhabited

namespace Regex

/-- A range list holds a unit. -/
def holds (ranges : List (Nat × Nat)) (unit : Nat) : Bool :=
  ranges.any fun range => range.1 ≤ unit && unit ≤ range.2

/-- The units from `low` on that no range of an increasing list holds. -/
def complementFrom (low : Nat) : List (Nat × Nat) → List (Nat × Nat)
  | [] => [(low, 0xFFFF)]
  | (first, last) :: rest =>
    if low < first then (low, first - 1) :: complementFrom (last + 1) rest
    else complementFrom (last + 1) rest

/-- The decimal digits. -/
def digitRanges : List (Nat × Nat) := [(0x30, 0x39)]

/-- The letters of ASCII, the digits and the low line. -/
def wordRanges : List (Nat × Nat) := [(0x30, 0x39), (0x41, 0x5A), (0x5F, 0x5F), (0x61, 0x7A)]

/-- The line ends. -/
def lineEndRanges : List (Nat × Nat) := [(0x0A, 0x0A), (0x0D, 0x0D), (0x2028, 0x2029)]

/-- A unit that ends a line. -/
def isLineEnd (unit : Nat) : Bool := holds lineEndRanges unit

/-- A word unit. -/
def isWord (unit : Nat) : Bool := holds wordRanges unit

/-- The ranges of a class letter: `d`, `w`, `s` and, in upper case, their
complements. -/
def classRanges? (unit : Nat) : Option (List (Nat × Nat)) :=
  if unit = 0x64 then some digitRanges
  else if unit = 0x44 then some (complementFrom 0 digitRanges)
  else if unit = 0x77 then some wordRanges
  else if unit = 0x57 then some (complementFrom 0 wordRanges)
  else if unit = 0x73 then some Text.blankRanges
  else if unit = 0x53 then some (complementFrom 0 Text.blankRanges)
  else none

/-- Any unit that does not end a line. -/
def anyInLine : Regex := .oneOf true lineEndRanges

end Regex

end StableTypes
