import StableTypes.Number.Basic
import StableTypes.Pattern.Matcher

/-!
# Policies

What the user decides: whether types are analyzed at all, which names are left
out, which are vouched for, whether unstable inputs count as comparable by
identity, and how deeply types are followed. The patterns are made ready once,
when the policy is made.
-/

namespace StableTypes

/-- Options of a policy before they are checked. -/
structure PolicyOptions where
  /-- Types are analyzed; otherwise every type counts as ignored. -/
  enabled : Bool := true
  /-- Patterns of the names that are left out. -/
  ignoredTypePatterns : List String := []
  /-- Patterns of the names that the user vouches for. -/
  customStableTypePatterns : List String := []
  /-- Inputs that are not stable are compared by identity. -/
  treatUnstableAsIdentityComparable : Bool := false
  /-- How many types may be under classification at once. -/
  maxRecursionDepth : Number := .finite 64
deriving Inhabited

/-- Options of which some may be left out. -/
structure PolicyOverrides where
  /-- Types are analyzed. -/
  enabled : Option Bool := none
  /-- Patterns of the names that are left out. -/
  ignoredTypePatterns : Option (List String) := none
  /-- Patterns of the names that the user vouches for. -/
  customStableTypePatterns : Option (List String) := none
  /-- Inputs that are not stable are compared by identity. -/
  treatUnstableAsIdentityComparable : Option Bool := none
  /-- How many types may be under classification at once. -/
  maxRecursionDepth : Option Number := none
deriving Inhabited

/-- The options with some of them replaced. -/
def PolicyOptions.override (options : PolicyOptions) (overrides : PolicyOverrides) :
    PolicyOptions where
  enabled := overrides.enabled.getD options.enabled
  ignoredTypePatterns := overrides.ignoredTypePatterns.getD options.ignoredTypePatterns
  customStableTypePatterns :=
    overrides.customStableTypePatterns.getD options.customStableTypePatterns
  treatUnstableAsIdentityComparable :=
    overrides.treatUnstableAsIdentityComparable.getD options.treatUnstableAsIdentityComparable
  maxRecursionDepth := overrides.maxRecursionDepth.getD options.maxRecursionDepth

/-- A list of patterns as given, together with its matcher. -/
structure PatternList where
  /-- The patterns as given. -/
  given : List String
  /-- The same patterns made ready. -/
  matcher : PatternMatcher

/-- Makes a list of patterns ready and keeps the list. -/
def PatternList.ofPatterns (patterns : List String) : PatternList :=
  ⟨patterns, PatternMatcher.ofPatterns patterns⟩

/-- What the user decides. -/
structure Policy where
  /-- Types are analyzed; otherwise every type counts as ignored. -/
  enabled : Bool
  /-- The names that are left out. -/
  ignored : PatternList
  /-- The names that the user vouches for. -/
  customStable : PatternList
  /-- Inputs that are not stable are compared by identity. -/
  identityComparable : Bool
  /-- How many types may be under classification at once. -/
  maxRecursionDepth : Nat

namespace Policy

/-- The depth where no usable one is given. -/
def defaultRecursionDepth : Nat := 64

/-- A depth counts if it is a natural number above zero. -/
def recursionDepth (requested : Number) : Nat :=
  match requested.natural? with
  | some depth => if depth = 0 then defaultRecursionDepth else depth
  | none => defaultRecursionDepth

/-- The policy of some options. -/
def ofOptions (options : PolicyOptions) : Policy where
  enabled := options.enabled
  ignored := .ofPatterns options.ignoredTypePatterns
  customStable := .ofPatterns options.customStableTypePatterns
  identityComparable := options.treatUnstableAsIdentityComparable
  maxRecursionDepth := recursionDepth options.maxRecursionDepth

/-- A name is left out of the analysis. -/
def isIgnored (policy : Policy) (name : String) : Bool :=
  !policy.enabled || policy.ignored.matcher.accepts name

/-- The user vouches for a name. -/
def isCustomStable (policy : Policy) (name : String) : Bool :=
  policy.customStable.matcher.accepts name

end Policy

end StableTypes
