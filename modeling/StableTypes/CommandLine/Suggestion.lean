import StableTypes.Text.Units

/-!
# Suggestions

Names that an unknown name may have been meant for. The distance of two names is
the least number of insertions, deletions, replacements and swaps of neighbours
that turn one into the other, no part being changed twice. The nearest names are
suggested if they are near enough.
-/

namespace StableTypes.Suggestion

/-- Distances that count as near. -/
def maxDistance : Nat := 3

/-- The distances in the row of a unit, from a column on. `last` is the unit of the
row above, `left` the distance before the column and `passed` the unit there;
`above` starts one column earlier, and `twoAbove` two columns earlier. -/
def rowFrom (unit : Nat) (last : Option Nat) :
    (left : Nat) → (passed : Option Nat) → (above twoAbove : List Nat) → List Nat → List Nat
  | left, passed, diagonal :: up :: above, twoAbove, column :: columns =>
    let plain := min (min (up + 1) (left + 1)) (diagonal + if unit = column then 0 else 1)
    let least :=
      match twoAbove with
      | corner :: _ =>
        if passed = some unit ∧ last = some column then min plain (corner + 1) else plain
      | [] => plain
    least ::
      rowFrom unit last least (some column) (up :: above)
        (if passed.isSome then twoAbove.tail else twoAbove) columns
  | _, _, _, _, _ => []

/-- The distances of the last row, from a row on: `number` rows are done, and the
two rows above are given. -/
def lastRow (columns : List Nat) :
    (number : Nat) → (last : Option Nat) → (above twoAbove : List Nat) → List Nat → List Nat
  | _, _, above, _, [] => above
  | number, last, above, twoAbove, unit :: units =>
    let row := (number + 1) ::
      rowFrom unit last (number + 1) none above twoAbove columns
    lastRow columns (number + 1) (some unit) row above units

/-- The distance of two names. -/
def distance (first second : List Nat) : Nat :=
  ((lastRow second 0 none (List.range (second.length + 1)) [] first).getLast?).getD 0

/-- Names are compared only if their lengths are near. -/
def nearDistance? (first second : List Nat) : Option Nat :=
  let longer := max first.length second.length
  let shorter := min first.length second.length
  if maxDistance < longer - shorter then none
  else
    let found := distance first second
    if found ≤ maxDistance ∧ 4 * longer < 10 * (longer - found) then some found else none

/-- The nearest of some candidates with their distances. -/
def nearest (found : List (String × Nat)) : List String :=
  (found.filter fun candidate => found.all (candidate.2 ≤ ·.2)).map (·.1)

/-- The candidates that a name may have been meant for, in alphabetical order. -/
def suggestions (name : String) (candidates : List String) : List String :=
  let near := candidates.eraseDups.filterMap fun candidate =>
    if Text.unitLength candidate ≤ 1 then none
    else (nearDistance? (Text.units name) (Text.units candidate)).map (candidate, ·)
  (nearest near).mergeSort fun first second => first ≤ second

end StableTypes.Suggestion
