import StableTypes.Regex.Basic
import StableTypes.Text.Units

/-!
# Reading regular expressions

The lenient pattern grammar of regular expressions without flags. A closing
bracket or brace, and an opening brace that starts no quantifier, stand for
themselves; an escaped letter without a meaning is that letter; `\1` is a back
reference only if there are that many captures, and an octal code otherwise. A
pattern that this grammar does not derive is refused.
-/

namespace StableTypes.Regex

/-- What a pattern declares as a whole. -/
structure Scope where
  /-- Number of captures in the pattern. -/
  captures : Nat
  /-- The named captures with their indices. -/
  names : List (List Nat × Nat)

/-- Value of a hexadecimal digit. -/
def hexDigit? (unit : Nat) : Option Nat :=
  if 0x30 ≤ unit ∧ unit ≤ 0x39 then some (unit - 0x30)
  else if 0x61 ≤ unit ∧ unit ≤ 0x66 then some (unit - 0x61 + 10)
  else if 0x41 ≤ unit ∧ unit ≤ 0x46 then some (unit - 0x41 + 10)
  else none

/-- The value of exactly `count` hexadecimal digits, and the rest. -/
def hexDigits? : (count value : Nat) → List Nat → Option (Nat × List Nat)
  | 0, value, rest => some (value, rest)
  | _ + 1, _, [] => none
  | count + 1, value, unit :: rest =>
    match hexDigit? unit with
    | some digit => hexDigits? count (value * 16 + digit) rest
    | none => none

/-- A decimal digit. -/
def isDigit (unit : Nat) : Bool := 0x30 ≤ unit && unit ≤ 0x39

/-- An octal digit. -/
def isOctal (unit : Nat) : Bool := 0x30 ≤ unit && unit ≤ 0x37

/-- A letter of ASCII. -/
def isLetter (unit : Nat) : Bool :=
  (0x41 ≤ unit && unit ≤ 0x5A) || (0x61 ≤ unit && unit ≤ 0x7A)

/-- The value of a run of decimal digits. -/
def decimal (digits : List Nat) : Nat := digits.foldl (fun n unit => n * 10 + (unit - 0x30)) 0

/-- An octal code of at most three digits below 256, its first digit given. -/
def octalCode (first : Nat) (rest : List Nat) : Nat × List Nat :=
  let value := first - 0x30
  match rest with
  | second :: rest₁ =>
    if isOctal second then
      let value := value * 8 + (second - 0x30)
      match rest₁ with
      | third :: rest₂ =>
        if isOctal third && value < 32 then (value * 8 + (third - 0x30), rest₂) else (value, rest₁)
      | [] => (value, rest₁)
    else (value, rest)
  | [] => (value, rest)

/-- The code of an escape that stands for one unit, the backslash being read.
A control letter takes the place of its letter; inside a class, digits and the
low line also count as control letters. -/
def escapeCode (inClass : Bool) (unit : Nat) (rest : List Nat) : Nat × List Nat :=
  if unit = 0x66 then (0x0C, rest)
  else if unit = 0x6E then (0x0A, rest)
  else if unit = 0x72 then (0x0D, rest)
  else if unit = 0x74 then (0x09, rest)
  else if unit = 0x76 then (0x0B, rest)
  else if unit = 0x62 ∧ inClass then (0x08, rest)
  else if unit = 0x63 then
    match rest with
    | letter :: rest₁ =>
      if isLetter letter || (inClass && (isDigit letter || letter = 0x5F)) then
        (letter % 32, rest₁)
      else (0x5C, unit :: rest)
    | [] => (0x5C, unit :: rest)
  else if unit = 0x78 then (hexDigits? 2 0 rest).getD (unit, rest)
  else if unit = 0x75 then (hexDigits? 4 0 rest).getD (unit, rest)
  else if isOctal unit then octalCode unit rest
  else (unit, rest)

/-- One atom of a class: the ranges it adds, whether it is a single unit, and
the rest. -/
def classAtom? : List Nat → Option (List (Nat × Nat) × Bool × List Nat)
  | [] => none
  | 0x5C :: [] => none
  | 0x5C :: unit :: rest =>
    match classRanges? unit with
    | some ranges => some (ranges, false, rest)
    | none =>
      let (code, rest) := escapeCode true unit rest
      some ([(code, code)], true, rest)
  | unit :: rest => some ([(unit, unit)], true, rest)

/-- The ranges of a class after its opening bracket, up to the closing one. -/
def classBody? : (fuel : Nat) → List Nat → Option (List (Nat × Nat) × List Nat)
  | 0, _ => none
  | _ + 1, [] => none
  | fuel + 1, unit :: rest =>
    if unit = 0x5D then some ([], rest)
    else do
      let (low, lowSingle, rest₁) ← classAtom? (unit :: rest)
      match rest₁ with
      | 0x2D :: 0x5D :: rest₂ => return (low ++ [(0x2D, 0x2D)], rest₂)
      | 0x2D :: rest₂ =>
        let (high, highSingle, rest₃) ← classAtom? rest₂
        let ranges ←
          if lowSingle && highSingle then
            match low, high with
            | [(first, _)], [(last, _)] => if first ≤ last then some [(first, last)] else none
            | _, _ => none
          else some (low ++ [(0x2D, 0x2D)] ++ high)
        let (more, rest₄) ← classBody? fuel rest₃
        return (ranges ++ more, rest₄)
      | _ =>
        let (more, rest₂) ← classBody? fuel rest₁
        return (low ++ more, rest₂)

/-- A class after its opening bracket. -/
def bracketed? (units : List Nat) : Option (Regex × List Nat) :=
  match units with
  | 0x5E :: rest => (classBody? (rest.length + 1) rest).map fun (ranges, rest) =>
      (.oneOf true ranges, rest)
  | rest => (classBody? (rest.length + 1) rest).map fun (ranges, rest) =>
      (.oneOf false ranges, rest)

/-- The bounds of a counted quantifier after its opening brace. -/
def bounds? (units : List Nat) : Option (Nat × Option Nat × List Nat) :=
  let digits := units.takeWhile isDigit
  if digits.isEmpty then none
  else
    let least := decimal digits
    match units.dropWhile isDigit with
    | 0x7D :: rest => some (least, some least, rest)
    | 0x2C :: 0x7D :: rest => some (least, none, rest)
    | 0x2C :: more =>
      let digits := more.takeWhile isDigit
      match digits.isEmpty, more.dropWhile isDigit with
      | false, 0x7D :: rest => some (least, some (decimal digits), rest)
      | _, _ => none
    | _ => none

/-- A quantifier at the head of the units, if one stands there. -/
def quantifier? (units : List Nat) : Option (Nat × Option Nat × List Nat) :=
  match units with
  | 0x2A :: rest => some (0, none, rest)
  | 0x2B :: rest => some (1, none, rest)
  | 0x3F :: rest => some (0, some 1, rest)
  | 0x7B :: rest => bounds? rest
  | _ => none

/-- Wraps an atom into the quantifier that follows it. Bounds in the wrong order
are refused. -/
def quantified? (atom : Regex) (openedBefore openedAfter : Nat) (units : List Nat) :
    Option (Regex × List Nat) :=
  match quantifier? units with
  | none => some (atom, units)
  | some (least, most, rest) =>
    if most.any (· < least) then none
    else
      let held := openedAfter - openedBefore
      match rest with
      | 0x3F :: rest => some (.iterate least most false openedBefore held atom, rest)
      | rest => some (.iterate least most true openedBefore held atom, rest)

/-- A unit that may occur in the name of a capture. -/
def isNameUnit (unit : Nat) : Bool := isWord unit || unit = 0x24 || 0x80 ≤ unit

/-- The name of a capture up to its closing angle bracket. -/
def name? (units : List Nat) : Option (List Nat × List Nat) :=
  let name := units.takeWhile isNameUnit
  match units.dropWhile isNameUnit with
  | 0x3E :: rest =>
    if name.isEmpty || name.head?.any isDigit then none else some (name, rest)
  | _ => none

/-- An atom behind a backslash that is not a class and not an edge. -/
def escapedAtom? (scope : Scope) (unit : Nat) (rest : List Nat) : Option (Regex × List Nat) :=
  if unit = 0x6B ∧ scope.names ≠ [] then
    match rest with
    | 0x3C :: rest => do
      let (name, rest) ← name? rest
      let index ← scope.names.lookup name
      return (.back index, rest)
    | _ => none
  else if isDigit unit ∧ unit ≠ 0x30 then
    let digits := (unit :: rest).takeWhile isDigit
    if decimal digits ≤ scope.captures then
      some (.back (decimal digits), (unit :: rest).dropWhile isDigit)
    else
      let (code, rest) := escapeCode false unit rest
      some (.exactly code, rest)
  else
    let (code, rest) := escapeCode false unit rest
    some (.exactly code, rest)

mutual

/-- A choice up to a closing parenthesis or the end: the expression, the number
of captures opened so far, and the rest. -/
def choice? (scope : Scope) : (fuel opened : Nat) → List Nat → Option (Regex × Nat × List Nat)
  | 0, _, _ => none
  | fuel + 1, opened, units =>
    match branch? scope fuel opened units with
    | some (first, opened, 0x7C :: rest) =>
      match choice? scope fuel opened rest with
      | some (second, opened, rest) => some (.alt first second, opened, rest)
      | none => none
    | other => other

/-- The terms of one alternative. -/
def branch? (scope : Scope) : (fuel opened : Nat) → List Nat → Option (Regex × Nat × List Nat)
  | 0, _, _ => none
  | fuel + 1, opened, units =>
    match units with
    | [] => some (.empty, opened, [])
    | unit :: rest =>
      if unit = 0x7C ∨ unit = 0x29 then some (.empty, opened, unit :: rest)
      else
        match term? scope fuel opened unit rest with
        | some (first, opened, rest) =>
          match branch? scope fuel opened rest with
          | some (second, opened, rest) => some (.seq first second, opened, rest)
          | none => none
        | none => none

/-- One term that starts with a given unit. -/
def term? (scope : Scope) : (fuel opened unit : Nat) → List Nat → Option (Regex × Nat × List Nat)
  | 0, _, _, _ => none
  | fuel + 1, opened, unit, rest =>
    if unit = 0x5E then some (.atStart false, opened, rest)
    else if unit = 0x24 then some (.atEnd false, opened, rest)
    else if unit = 0x2A ∨ unit = 0x2B ∨ unit = 0x3F then none
    else if unit = 0x28 then group? scope fuel opened rest
    else if unit = 0x2E then
      (quantified? anyInLine opened opened rest).map fun (atom, rest) => (atom, opened, rest)
    else if unit = 0x5B then
      match bracketed? rest with
      | some (atom, rest) =>
        (quantified? atom opened opened rest).map fun (atom, rest) => (atom, opened, rest)
      | none => none
    else if unit = 0x5C then
      match rest with
      | [] => none
      | 0x62 :: rest => some (.wordEdge false, opened, rest)
      | 0x42 :: rest => some (.wordEdge true, opened, rest)
      | letter :: rest =>
        match classRanges? letter with
        | some ranges =>
          (quantified? (.oneOf false ranges) opened opened rest).map fun (atom, rest) =>
            (atom, opened, rest)
        | none =>
          match escapedAtom? scope letter rest with
          | some (atom, rest) =>
            (quantified? atom opened opened rest).map fun (atom, rest) => (atom, opened, rest)
          | none => none
    else if unit = 0x7B ∧ (bounds? rest).isSome then none
    else
      (quantified? (.exactly unit) opened opened rest).map fun (atom, rest) => (atom, opened, rest)

/-- A group after its opening parenthesis, with the quantifier behind it. -/
def group? (scope : Scope) : (fuel opened : Nat) → List Nat → Option (Regex × Nat × List Nat)
  | 0, _, _ => none
  | fuel + 1, opened, units =>
    match units with
    | 0x3F :: 0x3A :: rest =>
      match choice? scope fuel opened rest with
      | some (body, inner, 0x29 :: rest) =>
        (quantified? body opened inner rest).map fun (atom, rest) => (atom, inner, rest)
      | _ => none
    | 0x3F :: 0x3D :: rest =>
      match choice? scope fuel opened rest with
      | some (body, inner, 0x29 :: rest) =>
        (quantified? (.look true false body) opened inner rest).map fun (atom, rest) =>
          (atom, inner, rest)
      | _ => none
    | 0x3F :: 0x21 :: rest =>
      match choice? scope fuel opened rest with
      | some (body, inner, 0x29 :: rest) =>
        (quantified? (.look true true body) opened inner rest).map fun (atom, rest) =>
          (atom, inner, rest)
      | _ => none
    | 0x3F :: 0x3C :: 0x3D :: rest =>
      match choice? scope fuel opened rest with
      | some (body, inner, 0x29 :: rest) => some (.look false false body, inner, rest)
      | _ => none
    | 0x3F :: 0x3C :: 0x21 :: rest =>
      match choice? scope fuel opened rest with
      | some (body, inner, 0x29 :: rest) => some (.look false true body, inner, rest)
      | _ => none
    | 0x3F :: 0x3C :: rest =>
      match name? rest with
      | none => none
      | some (_, rest) =>
        match choice? scope fuel (opened + 1) rest with
        | some (body, inner, 0x29 :: rest) =>
          (quantified? (.capture (opened + 1) body) opened inner rest).map fun (atom, rest) =>
            (atom, inner, rest)
        | _ => none
    | 0x3F :: _ => none
    | rest =>
      match choice? scope fuel (opened + 1) rest with
      | some (body, inner, 0x29 :: rest) =>
        (quantified? (.capture (opened + 1) body) opened inner rest).map fun (atom, rest) =>
          (atom, inner, rest)
      | _ => none

end

/-- The declarations of a pattern, found by its parentheses outside classes and
escapes; `inClass` tells whether a class is open. -/
def scopeFrom (scope : Scope) (inClass : Bool) : List Nat → Scope
  | [] => scope
  | 0x5C :: [] => scope
  | 0x5C :: _ :: rest => scopeFrom scope inClass rest
  | 0x28 :: 0x3F :: 0x3C :: rest =>
    if inClass || rest.head? = some 0x3D || rest.head? = some 0x21 then
      scopeFrom scope inClass rest
    else
      let index := scope.captures + 1
      match name? rest with
      | some (name, _) => scopeFrom ⟨index, scope.names ++ [(name, index)]⟩ inClass rest
      | none => scopeFrom ⟨index, scope.names⟩ inClass rest
  | 0x28 :: 0x3F :: rest => scopeFrom scope inClass rest
  | unit :: rest =>
    if inClass then scopeFrom scope (unit ≠ 0x5D) rest
    else if unit = 0x5B then scopeFrom scope true rest
    else if unit = 0x28 then scopeFrom ⟨scope.captures + 1, scope.names⟩ false rest
    else scopeFrom scope false rest

/-- The names of the captures are pairwise distinct. -/
def Scope.distinctNames (scope : Scope) : Bool :=
  (scope.names.map (·.1)).eraseDups.length = scope.names.length

/-- The expression that a pattern spells, if it spells one. -/
def parse? (pattern : List Nat) : Option Regex :=
  let scope := scopeFrom ⟨0, []⟩ false pattern
  if scope.distinctNames then
    match choice? scope (4 * pattern.length + 4) 0 pattern with
    | some (expression, _, []) => some expression
    | _ => none
  else none

end StableTypes.Regex
