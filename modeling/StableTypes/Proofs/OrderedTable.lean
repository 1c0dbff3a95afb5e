import StableTypes.Table
import Mathlib.Data.List.Forall2

/-!
# Looking up what was inserted

A table answers for a name with the value inserted last under it, and every value in
it was inserted.
-/

namespace StableTypes.Table

variable {α : Type}

/-- Inserting changes the answer for the one name only. -/
theorem get?_insert (name other : String) (value : α) (table : Table α) :
    get? other (insert name value table) =
      if name = other then some value else get? other table := by
  induction table with
  | nil => rfl
  | cons entry rest ih =>
    obtain ⟨first, old⟩ := entry
    by_cases same : first = name
    · subst same
      by_cases asked : first = other <;> simp [insert, get?, asked]
    · by_cases asked : first = other
      · subst asked
        simp [insert, get?, same, Ne.symm same]
      · simp [insert, get?, same, asked, ih]

/-- A value found after inserting a list was inserted or there before. -/
theorem mem_or_get?_of_foldl {entries : List (String × α)} {table : Table α} {name : String}
    {value : α}
    (h : get? name (entries.foldl (fun table entry => insert entry.1 entry.2 table) table) =
      some value) : (name, value) ∈ entries ∨ get? name table = some value := by
  induction entries generalizing table with
  | nil => exact .inr h
  | cons entry entries ih =>
    rcases ih h with member | before
    · exact .inl (.tail _ member)
    · rw [get?_insert] at before
      split at before
      next same =>
        cases before
        exact .inl (same ▸ .head _)
      · exact .inr before

/-- A value found in a table comes from the list that the table was made of. -/
theorem mem_of_get?_ofList {entries : List (String × α)} {name : String} {value : α}
    (h : get? name (ofList entries) = some value) : (name, value) ∈ entries :=
  (mem_or_get?_of_foldl h).resolve_right nofun

/-- A name has a value after inserting a list if it is in the list or had one before. -/
theorem isSome_get?_foldl {entries : List (String × α)} {table : Table α} {name : String} :
    (get? name (entries.foldl (fun table entry => insert entry.1 entry.2 table) table)).isSome ↔
      name ∈ entries.map (·.1) ∨ (get? name table).isSome := by
  induction entries generalizing table with
  | nil => simp
  | cons entry entries ih =>
    rw [List.foldl_cons, ih, get?_insert, List.map_cons, List.mem_cons, or_assoc]
    by_cases same : entry.1 = name
    · simp [same]
    · simp [same, Ne.symm same]

/-- A table has values for the names in the list that it was made of. -/
theorem isSome_get?_ofList {entries : List (String × α)} {name : String} :
    (get? name (ofList entries)).isSome ↔ name ∈ entries.map (·.1) :=
  isSome_get?_foldl.trans (or_iff_left nofun)

section

variable {β : Type} {related : α → β → Prop}

/-- Inserting related values in two tables that answer alike leaves them answering alike. -/
theorem rel_get?_insert {value : α} {value' : β} {table : Table α} {table' : Table β}
    (name : String) (values : related value value')
    (before : ∀ other, Option.Rel related (get? other table) (get? other table')) (other : String) :
    Option.Rel related (get? other (insert name value table))
      (get? other (insert name value' table')) := by
  rw [get?_insert, get?_insert]
  split
  · exact .some values
  · exact before other

/-- The same for all values of two lists, under the same names. -/
theorem rel_get?_foldl {entries : List (String × α)} {entries' : List (String × β)}
    (pairs : List.Forall₂ (fun entry entry' => entry.1 = entry'.1 ∧ related entry.2 entry'.2)
      entries entries') {table : Table α} {table' : Table β}
    (before : ∀ other, Option.Rel related (get? other table) (get? other table')) (name : String) :
    Option.Rel related
      (get? name (entries.foldl (fun table entry => insert entry.1 entry.2 table) table))
      (get? name (entries'.foldl (fun table entry => insert entry.1 entry.2 table) table')) := by
  induction pairs generalizing table table' with
  | nil => exact before name
  | cons pair _ ih =>
    obtain ⟨names, values⟩ := pair
    rw [List.foldl_cons, List.foldl_cons, ← names]
    exact ih (rel_get?_insert _ values before)

/-- Tables of related values under the same names answer alike. -/
theorem rel_get?_ofList {entries : List (String × α)} {entries' : List (String × β)}
    (pairs : List.Forall₂ (fun entry entry' => entry.1 = entry'.1 ∧ related entry.2 entry'.2)
      entries entries') (name : String) :
    Option.Rel related (get? name (ofList entries)) (get? name (ofList entries')) :=
  rel_get?_foldl pairs (fun _ => .none) name

end

end StableTypes.Table
