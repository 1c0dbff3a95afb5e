import StableTypes.Number.Basic
import StableTypes.Table

/-!
# Report documents

Documents in the JSON data model. An object is a list of members in their own
order. Member lists read from a text are put into one form: a name occurs once,
at the place of its first occurrence and with its last value, and names that are
array indices stand first, in increasing order.
-/

namespace StableTypes

/-- A document. -/
inductive Json where
  /-- The null document. -/
  | null
  /-- A truth value. -/
  | bool (value : Bool)
  /-- A number. -/
  | number (value : Number)
  /-- A text. -/
  | string (value : String)
  /-- A list of documents. -/
  | array (items : List Json)
  /-- Named members in order. -/
  | object (members : List (String × Json))
deriving Inhabited

namespace Json

/-- The array index that a member name spells: its digits without a leading zero,
below `2 ^ 32 - 1`. -/
def arrayIndex? (name : String) : Option Nat :=
  match name.toList with
  | [] => none
  | ['0'] => some 0
  | first :: rest =>
    if '1' ≤ first ∧ first ≤ '9' ∧ rest.length < 10 ∧ rest.all Char.isDigit then
      let value := (first :: rest).foldl (fun n c => n * 10 + (c.toNat - '0'.toNat)) 0
      if value < 4294967295 then some value else none
    else none

/-- Members whose name is an array index, in increasing order, then the others in
the order given. -/
def arrangeMembers (members : List (String × Json)) : List (String × Json) :=
  let indexed := members.filterMap fun member => (arrayIndex? member.1).map (·, member)
  let others := members.filter fun member => (arrayIndex? member.1).isNone
  (indexed.mergeSort fun a b => a.1 ≤ b.1).map (·.2) ++ others

/-- The object of a list of settings, later ones overriding earlier ones. -/
def ofSettings (settings : List (String × Json)) : List (String × Json) :=
  arrangeMembers (Table.ofList settings)

/-- The value of a member of an object; no other document has members. -/
def member? (name : String) : Json → Option Json
  | .object members => Table.get? name members
  | _ => none

mutual

/-- Number of levels of a document. -/
def depth : Json → Nat
  | .array items => itemsDepth items + 1
  | .object members => membersDepth members + 1
  | _ => 1
termination_by structural document => document

/-- Number of levels of the deepest item. -/
def itemsDepth : List Json → Nat
  | [] => 0
  | item :: items => max item.depth (itemsDepth items)
termination_by structural items => items

/-- Number of levels of the deepest member. -/
def membersDepth : List (String × Json) → Nat
  | [] => 0
  | (_, value) :: members => max value.depth (membersDepth members)
termination_by structural members => members

end

/-- A document of texts. -/
def strings (list : List String) : Json := .array (list.map .string)

/-- The document of a natural number. -/
def nat (n : Nat) : Json := .number (.ofNat n)

/-- A member that is written only if it has a value. -/
def optional (name : String) (value : Option Json) : List (String × Json) :=
  match value with
  | some document => [(name, document)]
  | none => []

end Json

end StableTypes
