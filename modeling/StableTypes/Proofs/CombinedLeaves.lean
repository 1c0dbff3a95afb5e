import StableTypes.Classification
import Mathlib.Data.List.Basic

/-!
# Combining is keeping the first leaf of each key

While outcomes are combined, one set of keys goes through all that is nested in them. So it
comes to the same to write down the leaves first, which are the outcomes that are not combined,
in order, and then to go through the leaves alone. Everything that is said about a combination
is said about this list.
-/

namespace StableTypes.Classification

mutual

/-- The outcomes of a classification that are not combined, in order. -/
def leaves : Classification → List Classification
  | .combined members => allLeaves members
  | other => [other]
termination_by structural classification => classification

/-- The leaves of a list of classifications. -/
def allLeaves : List Classification → List Classification
  | [] => []
  | member :: members => leaves member ++ allLeaves members
termination_by structural members => members

end

/-- Keeps the first outcome of each key that is not among the keys seen. -/
def distinctFrom (seen : List String) : List Classification → List Classification
  | [] => []
  | member :: members =>
    if member.key ∈ seen then distinctFrom seen members
    else member :: distinctFrom (member.key :: seen) members

mutual

/-- Adding an outcome to a collection is keeping its leaves one after the other. -/
theorem collect_eq_foldl (collection : Collection) : (outcome : Classification) →
    collect collection outcome = outcome.leaves.foldl Collection.keep collection
  | .stable _ => rfl
  | .unstable _ => rfl
  | .runtime .. => rfl
  | .parameter _ => rfl
  | .unknown _ => rfl
  | .combined members => by
    rw [collect, leaves]
    exact collectAll_eq_foldl collection members
termination_by structural outcome => outcome

/-- Adding outcomes to a collection is keeping their leaves one after the other. -/
theorem collectAll_eq_foldl (collection : Collection) : (members : List Classification) →
    collectAll collection members = (allLeaves members).foldl Collection.keep collection
  | [] => rfl
  | member :: members => by
    rw [collectAll, allLeaves, List.foldl_append, collect_eq_foldl collection member]
    exact collectAll_eq_foldl _ members
termination_by structural members => members

end

/-- Outcomes that are kept one after the other are those whose key has not been seen. -/
theorem kept_foldl_keep (collection : Collection) (outcomes : List Classification) :
    (outcomes.foldl Collection.keep collection).kept =
      collection.kept ++ distinctFrom collection.seen outcomes := by
  induction outcomes generalizing collection with
  | nil => exact (List.append_nil _).symm
  | cons outcome outcomes ih =>
    rw [List.foldl_cons, ih, Collection.keep, distinctFrom]
    by_cases there : outcome.key ∈ collection.seen
    · rw [if_pos there, if_pos there]
    · rw [if_neg there, if_neg there, List.append_assoc, List.singleton_append]

/-- A combination holds the first leaf of each key. -/
theorem combine_eq (outcomes : List Classification) :
    combine outcomes = .combined (distinctFrom [] (allLeaves outcomes)) := by
  rw [combine, collectAll_eq_foldl, kept_foldl_keep, Collection.empty, List.nil_append]

end StableTypes.Classification
