import StableTypes.Regex.Matching

/-!
# Searching and replacing

All matches of an expression in a text, from left to right, and the text with
every match replaced. Each match is looked for behind the one before, and behind
an empty match the search moves on by one unit.
-/

namespace StableTypes.Regex

/-- The same expression with its start and end marks standing for those of lines. -/
def inLines : Regex → Regex
  | .atStart _ => .atStart true
  | .atEnd _ => .atEnd true
  | .seq first second => .seq (inLines first) (inLines second)
  | .alt first second => .alt (inLines first) (inLines second)
  | .capture index body => .capture index (inLines body)
  | .iterate least most greedy opened held body =>
    .iterate least most greedy opened held (inLines body)
  | .look ahead negated body => .look ahead negated (inLines body)
  | other => other
termination_by structural expression => expression

/-- The matches from a place on, as the cursors at their two ends. A search moves
on by a unit at least, so the text left bounds their number. -/
def matchesFrom (expression : Regex) :
    (fuel position : Nat) → (before after : List Nat) → List (Cursor × Cursor)
  | 0, _, _, _ => []
  | fuel + 1, position, before, after =>
    match searchFrom expression position before after with
    | none => []
    | some (start, stop) =>
      (start, stop) ::
        if start.position < stop.position then
          matchesFrom expression fuel stop.position stop.before stop.after
        else
          match stop.after with
          | [] => []
          | unit :: rest =>
            matchesFrom expression fuel (stop.position + 1) (unit :: stop.before) rest

/-- The matches in a text. -/
def matchesIn (expression : Regex) (text : List Nat) : List (Cursor × Cursor) :=
  matchesFrom expression (text.length + 1) 0 [] text

/-- The text after a position with the matches in it replaced. -/
def replaceFrom (replacement : Cursor → List Nat) :
    (position : Nat) → (text : List Nat) → List (Cursor × Cursor) → List Nat
  | _, text, [] => text
  | position, text, (start, stop) :: others =>
    text.take (start.position - position) ++ replacement stop
      ++ replaceFrom replacement stop.position (text.drop (stop.position - position)) others

/-- A text with every match replaced; the replacement is made from the captures. -/
def replaceAll (expression : Regex) (replacement : Cursor → List Nat) (text : List Nat) :
    List Nat :=
  replaceFrom replacement 0 text (matchesIn expression text)

end StableTypes.Regex
