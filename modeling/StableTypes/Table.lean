/-!
# Ordered tables

A table of values by name that keeps its names in the order of their first
insertion. Inserting under a known name replaces the value and keeps the place.
-/

namespace StableTypes

/-- Values by name, each name once, in order. -/
abbrev Table (α : Type) := List (String × α)

namespace Table

variable {α : Type}

/-- Sets the value of a name. -/
def insert (name : String) (value : α) : Table α → Table α
  | [] => [(name, value)]
  | (other, old) :: rest =>
    if other = name then (name, value) :: rest else (other, old) :: insert name value rest

/-- The value of a name. -/
def get? (name : String) : Table α → Option α
  | [] => none
  | (other, value) :: rest => if other = name then some value else get? name rest

/-- The names in order. -/
def names (table : Table α) : List String := table.map (·.1)

/-- The table of a list of entries; the last entry of a name counts. -/
def ofList (entries : List (String × α)) : Table α :=
  entries.foldl (fun table entry => insert entry.1 entry.2 table) []

end Table

end StableTypes
