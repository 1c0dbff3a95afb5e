/-!
# Classifications

The outcome of classifying a type, with its reason. A combined outcome holds
several; the smart constructor `combine` flattens nested ones and keeps each
outcome once, at its first place, where two outcomes are the same if their keys
are. All that is nested is compared with one set of keys. The verdict forgets
reasons: a combination is stable if all its members are, and unstable if some
member is.
-/

namespace StableTypes

/-- The outcome of classifying a type. -/
inductive Classification where
  /-- Values stay as they are until replaced. -/
  | stable (reason : String)
  /-- Values can change in place. -/
  | unstable (reason : String)
  /-- Only a value at run time decides. -/
  | runtime (typeName reason : String)
  /-- The argument for a type parameter decides. -/
  | parameter (name : String)
  /-- Nothing is known about the declaration. -/
  | unknown (name : String)
  /-- Several outcomes, none of which decides alone. -/
  | combined (members : List Classification)
deriving Inhabited

/-- What a classification amounts to. -/
inductive Verdict where
  /-- Stable. -/
  | stable
  /-- Unstable. -/
  | unstable
  /-- Neither is known. -/
  | runtime
deriving DecidableEq, Inhabited

/-- The name of a verdict. -/
def Verdict.name : Verdict → String
  | .stable => "STABLE"
  | .unstable => "UNSTABLE"
  | .runtime => "RUNTIME"

namespace Classification

mutual

/-- All of it is stable. -/
def isStable : Classification → Bool
  | .stable _ => true
  | .combined members => allStable members
  | _ => false
termination_by structural classification => classification

/-- Every member is stable. -/
def allStable : List Classification → Bool
  | [] => true
  | member :: members => isStable member && allStable members
termination_by structural members => members

end

mutual

/-- Some of it is unstable. -/
def isUnstable : Classification → Bool
  | .unstable _ => true
  | .combined members => anyUnstable members
  | _ => false
termination_by structural classification => classification

/-- Some member is unstable. -/
def anyUnstable : List Classification → Bool
  | [] => false
  | member :: members => isUnstable member || anyUnstable members
termination_by structural members => members

end

/-- What a classification amounts to. -/
def verdict (classification : Classification) : Verdict :=
  if classification.isStable then .stable
  else if classification.isUnstable then .unstable
  else .runtime

mutual

/-- The reason of a classification as a sentence. -/
def describe : Classification → String
  | .stable reason => reason
  | .unstable reason => reason
  | .runtime _ reason => reason
  | .parameter name => "Type parameter " ++ name ++ " - stability depends on the type argument"
  | .unknown name => "Unknown stability: " ++ name
  | .combined members => "; ".intercalate (describeAll members)
termination_by structural classification => classification

/-- The reasons of a list of classifications. -/
def describeAll : List Classification → List String
  | [] => []
  | member :: members => describe member :: describeAll members
termination_by structural members => members

end

mutual

/-- The text by which outcomes are compared. -/
def key : Classification → String
  | .stable reason => "stable:" ++ reason
  | .unstable reason => "unstable:" ++ reason
  | .runtime typeName reason => "runtime:" ++ typeName ++ ":" ++ reason
  | .parameter name => "parameter:" ++ name
  | .unknown name => "unknown:" ++ name
  | .combined members => "combined:[" ++ ",".intercalate (keys members) ++ "]"
termination_by structural classification => classification

/-- The keys of a list of classifications. -/
def keys : List Classification → List String
  | [] => []
  | member :: members => key member :: keys members
termination_by structural members => members

end

/-- The outcomes collected for a combination so far. -/
structure Collection where
  /-- Their keys, as a set: each once. -/
  seen : List String
  /-- The outcomes themselves, in order. -/
  kept : List Classification

/-- Nothing collected yet. -/
def Collection.empty : Collection := ⟨[], []⟩

/-- One more outcome, unless its key has been seen. -/
def Collection.keep (collection : Collection) (outcome : Classification) : Collection :=
  if outcome.key ∈ collection.seen then collection
  else ⟨outcome.key :: collection.seen, collection.kept ++ [outcome]⟩

mutual

/-- Adds an outcome to a collection; a combined one adds its members in its place. -/
def collect (collection : Collection) : Classification → Collection
  | .combined members => collectAll collection members
  | other => collection.keep other
termination_by structural classification => classification

/-- Adds outcomes to a collection one after the other. -/
def collectAll (collection : Collection) : List Classification → Collection
  | [] => collection
  | member :: members => collectAll (collect collection member) members
termination_by structural members => members

end

/-- The combination of several outcomes, flat and without repetitions. -/
def combine (members : List Classification) : Classification :=
  .combined (collectAll .empty members).kept

end Classification

end StableTypes
