import StableTypes.Json.Basic
import StableTypes.Number.Decimal
import StableTypes.Text.Units

/-!
# Reading documents

A strict reader of JSON texts: four blanks, no comments, no trailing commas, no
leading zeros, no control characters inside a string. Every step of the reader
gives back the unread rest. Reading a value consumes a character, so the length
of the text bounds the nesting and no text is refused for its depth.
-/

namespace StableTypes.Json

/-- The four blanks allowed between tokens. -/
def isGap (c : Char) : Bool := c = ' ' || c = '\t' || c = '\n' || c = '\r'

/-- Drops the blanks before a token. -/
def skipGap (cs : List Char) : List Char := cs.dropWhile isGap

/-- The rest after a word, if the characters start with it. -/
def afterWord? : List Char → List Char → Option (List Char)
  | [], cs => some cs
  | _ :: _, [] => none
  | w :: word, c :: cs => if w = c then afterWord? word cs else none

/-- Value of a hexadecimal digit. -/
def hexValue? (c : Char) : Option Nat :=
  if '0' ≤ c ∧ c ≤ '9' then some (c.toNat - '0'.toNat)
  else if 'a' ≤ c ∧ c ≤ 'f' then some (c.toNat - 'a'.toNat + 10)
  else if 'A' ≤ c ∧ c ≤ 'F' then some (c.toNat - 'A'.toNat + 10)
  else none

/-- The unit that four hexadecimal digits spell. -/
def hexUnit? (a b c d : Char) : Option Nat := do
  let a ← hexValue? a
  let b ← hexValue? b
  let c ← hexValue? c
  let d ← hexValue? d
  return ((a * 16 + b) * 16 + c) * 16 + d

/-- The unit of a one-letter escape. -/
def shortEscape? (c : Char) : Option Nat :=
  match c with
  | '"' => some 0x22
  | '\\' => some 0x5C
  | '/' => some 0x2F
  | 'b' => some 0x08
  | 'f' => some 0x0C
  | 'n' => some 0x0A
  | 'r' => some 0x0D
  | 't' => some 0x09
  | _ => none

/-- Code units of a string after its opening quote, up to the closing one. The
units read so far are kept in reverse. -/
def readUnits (found : List Nat) : List Char → Option (List Nat × List Char)
  | [] => none
  | '"' :: rest => some (found.reverse, rest)
  | '\\' :: 'u' :: a :: b :: c :: d :: rest =>
    match hexUnit? a b c d with
    | some unit => readUnits (unit :: found) rest
    | none => none
  | '\\' :: c :: rest =>
    match shortEscape? c with
    | some unit => readUnits (unit :: found) rest
    | none => none
  | c :: rest =>
    if c.toNat < 0x20 ∨ c = '\\' then none
    else readUnits ((Text.unitsOf c).reverse ++ found) rest

/-- A string after its opening quote. -/
def readString (cs : List Char) : Option (String × List Char) :=
  (readUnits [] cs).map fun (list, rest) => (Text.ofUnits list, rest)

/-- The digits of an integer part: a single zero, or digits without a leading zero. -/
def readWhole (cs : List Char) : Option (List Char × List Char) :=
  match cs with
  | '0' :: rest => some (['0'], rest)
  | c :: _ =>
    if c.isDigit then some (cs.takeWhile Char.isDigit, cs.dropWhile Char.isDigit) else none
  | [] => none

/-- An optional fraction, as its digits. -/
def readFraction (cs : List Char) : Option (List Char × List Char) :=
  match cs with
  | '.' :: rest =>
    let digits := rest.takeWhile Char.isDigit
    if digits.isEmpty then none else some (digits, rest.dropWhile Char.isDigit)
  | _ => some ([], cs)

/-- The digits of an exponent with the given sign. -/
def readSignedExponent (negative : Bool) (cs : List Char) : Option (Int × List Char) :=
  let digits := cs.takeWhile Char.isDigit
  if digits.isEmpty then none
  else
    let value : Int := Number.digitsValue digits
    some (if negative then -value else value, cs.dropWhile Char.isDigit)

/-- An optional exponent. -/
def readExponent (cs : List Char) : Option (Int × List Char) :=
  match cs with
  | c :: rest =>
    if c = 'e' ∨ c = 'E' then
      match rest with
      | '-' :: digits => readSignedExponent true digits
      | '+' :: digits => readSignedExponent false digits
      | digits => readSignedExponent false digits
    else some (0, cs)
  | [] => some (0, cs)

/-- A number after its sign. -/
def readMagnitude (negative : Bool) (cs : List Char) : Option (Json × List Char) := do
  let (whole, cs) ← readWhole cs
  let (fraction, cs) ← readFraction cs
  let (exponent, cs) ← readExponent cs
  let value := Number.ofDecimal negative (Number.digitsValue (whole ++ fraction))
    (exponent - fraction.length)
  return (.number value, cs)

/-- A document that is not an array or an object. -/
def readScalar (cs : List Char) : Option (Json × List Char) :=
  match cs with
  | '"' :: rest => (readString rest).map fun (text, rest) => (.string text, rest)
  | '-' :: rest => readMagnitude true rest
  | 't' :: rest => (afterWord? ['r', 'u', 'e'] rest).map (Json.bool true, ·)
  | 'f' :: rest => (afterWord? ['a', 'l', 's', 'e'] rest).map (Json.bool false, ·)
  | 'n' :: rest => (afterWord? ['u', 'l', 'l'] rest).map (Json.null, ·)
  | _ => readMagnitude false cs

mutual

/-- A document at the head of the characters, blanks before it skipped. -/
def readValue : (fuel : Nat) → List Char → Option (Json × List Char)
  | 0, _ => none
  | fuel + 1, cs =>
    match skipGap cs with
    | '[' :: rest =>
      match skipGap rest with
      | ']' :: rest => some (.array [], rest)
      | _ => readItems fuel [] rest
    | '\x7b' :: rest =>
      match skipGap rest with
      | '\x7d' :: rest => some (.object [], rest)
      | _ => readMembers fuel [] rest
    | rest => readScalar rest

/-- The items of an array from the next item on, those before it in reverse. -/
def readItems : (fuel : Nat) → List Json → List Char → Option (Json × List Char)
  | 0, _, _ => none
  | fuel + 1, found, cs =>
    match readValue fuel cs with
    | none => none
    | some (item, rest) =>
      match skipGap rest with
      | ',' :: rest => readItems fuel (item :: found) rest
      | ']' :: rest => some (.array (item :: found).reverse, rest)
      | _ => none

/-- The members of an object from the next name on, those before it in reverse. -/
def readMembers : (fuel : Nat) → List (String × Json) → List Char → Option (Json × List Char)
  | 0, _, _ => none
  | fuel + 1, found, cs =>
    match skipGap cs with
    | '"' :: rest =>
      match readString rest with
      | none => none
      | some (name, rest) =>
        match skipGap rest with
        | ':' :: rest =>
          match readValue fuel rest with
          | none => none
          | some (value, rest) =>
            match skipGap rest with
            | ',' :: rest => readMembers fuel ((name, value) :: found) rest
            | '\x7d' :: rest => some (.object (ofSettings ((name, value) :: found).reverse), rest)
            | _ => none
        | _ => none
    | _ => none

end

/-- The document that a whole text spells, if it spells one. -/
def parse? (text : String) : Option Json :=
  match readValue (text.length + 1) text.toList with
  | some (document, rest) => if (skipGap rest).isEmpty then some document else none
  | none => none

end StableTypes.Json
