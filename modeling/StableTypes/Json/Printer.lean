import StableTypes.Json.Basic
import StableTypes.Number.Decimal

/-!
# Writing documents

The compact form has no blanks at all. The indented form puts every item and
every member on a line of its own, two blanks deeper than its container, and
writes empty containers without a line end. A number that is infinite is written
as null.
-/

namespace StableTypes.Json

/-- A hexadecimal digit in lower case. -/
def hexDigit (n : Nat) : Char :=
  if n < 10 then Char.ofNat ('0'.toNat + n) else Char.ofNat ('a'.toNat + (n - 10))

/-- The written form of one character of a string. -/
def escapeChar (c : Char) : List Char :=
  match c with
  | '"' => ['\\', '"']
  | '\\' => ['\\', '\\']
  | '\n' => ['\\', 'n']
  | '\r' => ['\\', 'r']
  | '\t' => ['\\', 't']
  | '\x08' => ['\\', 'b']
  | '\x0c' => ['\\', 'f']
  | c =>
    if c.toNat < 0x20 then
      ['\\', 'u', '0', '0', hexDigit (c.toNat / 16), hexDigit (c.toNat % 16)]
    else [c]

/-- A text between quotes. -/
def quote (text : String) : String :=
  String.ofList ('"' :: text.toList.flatMap escapeChar ++ ['"'])

/-- A number as a document. -/
def numberText : Number → String
  | .infinite _ => "null"
  | value => value.text

mutual

/-- The compact text of a document. -/
def compact : Json → String
  | .null => "null"
  | .bool value => if value then "true" else "false"
  | .number value => numberText value
  | .string value => quote value
  | .array items => "[" ++ ",".intercalate (compactItems items) ++ "]"
  | .object members => "\x7b" ++ ",".intercalate (compactMembers members) ++ "\x7d"
termination_by structural document => document

/-- The compact texts of a list of documents. -/
def compactItems : List Json → List String
  | [] => []
  | item :: items => compact item :: compactItems items
termination_by structural items => items

/-- The compact texts of a list of members. -/
def compactMembers : List (String × Json) → List String
  | [] => []
  | (name, value) :: members => (quote name ++ ":" ++ compact value) :: compactMembers members
termination_by structural members => members

end

/-- A line end and the blanks before a line at a depth. -/
def newLine (depth : Nat) : String := "\n" ++ String.ofList (List.replicate (2 * depth) ' ')

/-- Lines of a container at a depth, between its brackets. -/
def block (opening closing : String) (depth : Nat) (lines : List String) : String :=
  if lines.isEmpty then opening ++ closing
  else opening ++ newLine (depth + 1) ++ ("," ++ newLine (depth + 1)).intercalate lines
    ++ newLine depth ++ closing

mutual

/-- The indented text of a document that stands at a depth. -/
def indentedAt : (depth : Nat) → Json → String
  | _, .null => "null"
  | _, .bool value => if value then "true" else "false"
  | _, .number value => numberText value
  | _, .string value => quote value
  | depth, .array items => block "[" "]" depth (indentedItems (depth + 1) items)
  | depth, .object members => block "\x7b" "\x7d" depth (indentedMembers (depth + 1) members)
termination_by structural _ document => document

/-- The indented texts of a list of documents. -/
def indentedItems : (depth : Nat) → List Json → List String
  | _, [] => []
  | depth, item :: items => indentedAt depth item :: indentedItems depth items
termination_by structural _ items => items

/-- The indented texts of a list of members. -/
def indentedMembers : (depth : Nat) → List (String × Json) → List String
  | _, [] => []
  | depth, (name, value) :: members =>
    (quote name ++ ": " ++ indentedAt depth value) :: indentedMembers depth members
termination_by structural _ members => members

end

/-- The indented text of a document. -/
def indented (document : Json) : String := indentedAt 0 document

end StableTypes.Json
