/-!
# White space

The blank characters of the formats read here: the ASCII blanks and line ends,
the byte order mark, the two Unicode line separators and the Unicode space
separators. U+0085, U+180E and U+200B are not blank, nor are the ASCII
separators U+001C to U+001F. Trimming and line cutting are stated on character
lists, and the versions on texts convert once.
-/

namespace StableTypes.Text

/-- Code points of the blank characters, as closed ranges in increasing order. -/
def blankRanges : List (Nat × Nat) :=
  [(0x09, 0x0D), (0x20, 0x20), (0xA0, 0xA0), (0x1680, 0x1680), (0x2000, 0x200A),
   (0x2028, 0x2029), (0x202F, 0x202F), (0x205F, 0x205F), (0x3000, 0x3000), (0xFEFF, 0xFEFF)]

/-- A code point is blank when some range of the table holds it. -/
def isBlankPoint (point : Nat) : Bool :=
  blankRanges.any fun range => range.1 ≤ point && point ≤ range.2

/-- A blank character. -/
def isBlank (c : Char) : Bool := isBlankPoint c.toNat

/-- Drops blanks at both ends of a character list. -/
def trimChars (cs : List Char) : List Char :=
  ((cs.dropWhile isBlank).reverse.dropWhile isBlank).reverse

/-- The text without the blanks at its two ends. -/
def trim (text : String) : String := String.ofList (trimChars text.toList)

/-- Cuts a character list at every character for which `cut` holds; the pieces
are the runs between the cuts, so `n` cuts give `n + 1` pieces. -/
def splitChars (cut : Char → Bool) : List Char → List (List Char)
  | [] => [[]]
  | c :: rest =>
    if cut c then [] :: splitChars cut rest
    else match splitChars cut rest with
      | [] => [[c]]
      | piece :: pieces => (c :: piece) :: pieces

/-- The pieces of a text between the occurrences of a separator character. -/
def splitOn (separator : Char) (text : String) : List String :=
  (splitChars (· == separator) text.toList).map String.ofList

/-- The nonempty trimmed items of a comma separated list. -/
def commaItems (text : String) : List String :=
  ((splitOn ',' text).map trim).filter (· ≠ "")

end StableTypes.Text
