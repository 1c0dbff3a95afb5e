import StableTypes.Json.Basic

/-!
# Checked reading of documents

A reader of a document gives a value or the complete list of issues, each with
the path to the part that it is about. Parts are read side by side, so the issues
of one part do not hide those of another; they come in the order of the parts. A
member that is missing is told from one that is null.
-/

namespace StableTypes

/-- One thing that is wrong with a document. -/
structure Issue where
  /-- Member names and item positions from the root down. -/
  path : List String
  /-- What is wrong. -/
  message : String
deriving DecidableEq, Inhabited

/-- An issue as a line. -/
def Issue.text (issue : Issue) : String :=
  (if issue.path.isEmpty then "(root)" else ".".intercalate issue.path) ++ ": " ++ issue.message

/-- A value, or at least one issue. -/
inductive Validated (α : Type) where
  /-- Everything was read. -/
  | valid (value : α)
  /-- Something is wrong. -/
  | invalid (first : Issue) (others : List Issue)

namespace Validated

variable {α β : Type}

/-- All issues. -/
def issues : Validated α → List Issue
  | .valid _ => []
  | .invalid first others => first :: others

/-- The value, if nothing is wrong. -/
def value? : Validated α → Option α
  | .valid value => some value
  | .invalid .. => none

/-- A single issue about the document itself. -/
def fail (message : String) : Validated α := .invalid ⟨[], message⟩ []

/-- Applies a function to the value. -/
def map (f : α → β) : Validated α → Validated β
  | .valid value => .valid (f value)
  | .invalid first others => .invalid first others

/-- Reads one more part beside the parts read so far. -/
def also (parts : Validated (α → β)) (part : Validated α) : Validated β :=
  match parts, part with
  | .valid f, .valid value => .valid (f value)
  | .valid _, .invalid first others => .invalid first others
  | .invalid first others, .valid _ => .invalid first others
  | .invalid first others, .invalid first' others' =>
    .invalid first (others ++ first' :: others')

/-- Issues of a part seen from its container. -/
def under (step : String) : Validated α → Validated α
  | .valid value => .valid value
  | .invalid first others =>
    let lift (issue : Issue) : Issue := { issue with path := step :: issue.path }
    .invalid (lift first) (others.map lift)

end Validated

namespace Check

variable {α : Type}

/-- The kind of a document, as issues name it. -/
def kindName : Json → String
  | .null => "null"
  | .bool _ => "boolean"
  | .number _ => "number"
  | .string _ => "string"
  | .array _ => "array"
  | .object _ => "object"

/-- The document is not of the kind expected. -/
def unexpected (expected : String) (document : Json) : Validated α :=
  .fail s!"Expected {expected}, received {kindName document}"

/-- Reads a text. -/
def text : Json → Validated String
  | .string value => .valid value
  | other => unexpected "string" other

/-- Reads a text that is not empty. -/
def nonempty : Json → Validated String
  | .string value =>
    if value = "" then .fail "String must contain at least 1 character(s)" else .valid value
  | other => unexpected "string" other

/-- Reads a truth value. -/
def flag : Json → Validated Bool
  | .bool value => .valid value
  | other => unexpected "boolean" other

/-- Reads a natural number. A fraction and a sign are two issues. -/
def count : Json → Validated Nat
  | .number value =>
    match value.natural? with
    | some n => .valid n
    | none =>
      let fraction : Issue := ⟨[], "Expected integer, received float"⟩
      let sign : Issue := ⟨[], "Number must be greater than or equal to 0"⟩
      if value.isInteger then .invalid sign []
      else .invalid fraction (if value.isNegative then [sign] else [])
  | other => unexpected "number" other

/-- Reads the items of a list from a position on. -/
def items (read : Json → Validated α) : (position : Nat) → List Json → Validated (List α)
  | _, [] => .valid []
  | position, item :: rest =>
    (((read item).under (toString position)).map List.cons).also (items read (position + 1) rest)

/-- Reads a list. -/
def list (read : Json → Validated α) : Json → Validated (List α)
  | .array content => items read 0 content
  | other => unexpected "array" other

/-- Reads the members of an object. -/
def object (read : List (String × Json) → Validated α) : Json → Validated α
  | .object members => read members
  | other => unexpected "object" other

/-- The names of an enumeration between quotes. -/
def alternatives (names : List String) : String :=
  " | ".intercalate (names.map fun name => "'" ++ name ++ "'")

/-- Reads one of a few names. -/
def oneOf (values : List (String × α)) : Json → Validated α
  | .string value =>
    match values.lookup value with
    | some found => .valid found
    | none =>
      .fail ("Invalid enum value. Expected " ++ alternatives (values.map (·.1))
        ++ ", received '" ++ value ++ "'")
  | other => unexpected (alternatives (values.map (·.1))) other

/-- Reads a document that may be missing where it must not be. -/
def present (read : Json → Validated α) : Option Json → Validated α
  | some document => read document
  | none => .fail "Required"

/-- Reads a member that must be present. -/
def required (name : String) (read : Json → Validated α) (members : List (String × Json)) :
    Validated α :=
  (present read (Table.get? name members)).under name

/-- Reads a member that may be missing. -/
def optional (name : String) (read : Json → Validated α) (members : List (String × Json)) :
    Validated (Option α) :=
  match Table.get? name members with
  | some document => ((read document).under name).map some
  | none => .valid none

/-- Reads a member that stands for a given value when it is missing. -/
def defaulted (name : String) (read : Json → Validated α) (missing : α)
    (members : List (String × Json)) : Validated α :=
  (optional name read members).map (·.getD missing)

end Check

end StableTypes
