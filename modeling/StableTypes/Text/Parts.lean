/-!
# Parts of a text

Tests for a text at the start of another one and anywhere inside it, stated on
character lists.
-/

namespace StableTypes.Text

/-- One text starts with another one. -/
def startsWith (text start : String) : Bool := start.toList.isPrefixOf text.toList

/-- One character list occurs inside another one. -/
def occursIn (part : List Char) : List Char → Bool
  | [] => part.isEmpty
  | c :: rest => part.isPrefixOf (c :: rest) || occursIn part rest

/-- One text occurs inside another one. -/
def contains (text part : String) : Bool := occursIn part.toList text.toList

end StableTypes.Text
