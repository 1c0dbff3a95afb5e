import StableTypes.Pattern.Glob
import StableTypes.Text.Blank

/-!
# Matching type names

A list of patterns against the name of a type. The type arguments of a name do
not take part. A pattern that spells no expression matches only the name that it
is itself.
-/

namespace StableTypes

/-- A pattern made ready for matching. -/
inductive CompiledPattern where
  /-- A pattern with its expression. -/
  | expression (pattern : String) (regex : Regex)
  /-- A pattern that is compared as text. -/
  | literal (pattern : String)

namespace CompiledPattern

/-- Makes a pattern ready. -/
def ofPattern (pattern : String) : CompiledPattern :=
  match Glob.expression? pattern with
  | some regex => .expression pattern regex
  | none => .literal pattern

/-- The pattern as it was given. -/
def pattern : CompiledPattern → String
  | .expression pattern _ => pattern
  | .literal pattern => pattern

/-- A name without type arguments matches. -/
def accepts (name : String) : CompiledPattern → Bool
  | .expression _ regex => Glob.accepts regex name
  | .literal pattern => pattern = name

end CompiledPattern

/-- A name up to its first opening angle bracket. -/
def rawName (name : String) : String := String.ofList (name.toList.takeWhile (· ≠ '<'))

/-- A list of patterns made ready for matching. -/
structure PatternMatcher where
  /-- The patterns in the order given. -/
  compiled : List CompiledPattern

namespace PatternMatcher

/-- The patterns of a list that are not blank, trimmed. -/
def usable (patterns : List String) : List String :=
  (patterns.map Text.trim).filter (· ≠ "")

/-- Makes a list of patterns ready; blank patterns are left out. -/
def ofPatterns (patterns : List String) : PatternMatcher :=
  ⟨(usable patterns).map CompiledPattern.ofPattern⟩

/-- Some pattern matches the name. No pattern matches the empty name. -/
def accepts (patterns : PatternMatcher) (name : String) : Bool :=
  name ≠ "" && patterns.compiled.any (·.accepts (rawName name))

/-- Some pattern matches a name that may be missing. -/
def acceptsSome (patterns : PatternMatcher) (name : Option String) : Bool :=
  name.any patterns.accepts

/-- There are no patterns. -/
def isEmpty (patterns : PatternMatcher) : Bool := patterns.compiled.isEmpty

/-- The patterns in use. -/
def patterns (matcher : PatternMatcher) : List String := matcher.compiled.map (·.pattern)

end PatternMatcher

end StableTypes
