/-!
# UTF-16 code units

Lengths and regular expressions count 16-bit code units: a character beyond the
basic plane is a surrogate pair, so it counts twice. Going back from units to
text pairs the surrogates again, and a surrogate without its partner becomes the
replacement character.
-/

namespace StableTypes.Text

/-- The code units of one character. -/
def unitsOf (c : Char) : List Nat :=
  let point := c.toNat
  if point < 0x10000 then [point]
  else [0xD800 + (point - 0x10000) / 0x400, 0xDC00 + (point - 0x10000) % 0x400]

/-- The code units of a text. -/
def units (text : String) : List Nat := text.toList.flatMap unitsOf

/-- Length of a text in code units. -/
def unitLength (text : String) : Nat := (units text).length

/-- First half of a surrogate pair. -/
def isHighSurrogate (unit : Nat) : Bool := 0xD800 ≤ unit && unit < 0xDC00

/-- Second half of a surrogate pair. -/
def isLowSurrogate (unit : Nat) : Bool := 0xDC00 ≤ unit && unit < 0xE000

/-- The character of a single unit; a lone surrogate reads as U+FFFD. -/
def charOfUnit (unit : Nat) : Char :=
  if isHighSurrogate unit || isLowSurrogate unit then Char.ofNat 0xFFFD else Char.ofNat unit

/-- The characters that a list of code units encodes. -/
def charsOfUnits : List Nat → List Char
  | [] => []
  | [unit] => [charOfUnit unit]
  | high :: low :: rest =>
    if isHighSurrogate high && isLowSurrogate low then
      Char.ofNat (0x10000 + (high - 0xD800) * 0x400 + (low - 0xDC00)) :: charsOfUnits rest
    else charOfUnit high :: charsOfUnits (low :: rest)

/-- The text that a list of code units encodes. -/
def ofUnits (list : List Nat) : String := String.ofList (charsOfUnits list)

end StableTypes.Text
