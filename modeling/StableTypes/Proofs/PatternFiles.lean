import StableTypes.Pattern.Lines
import StableTypes.Pattern.Matcher
import Mathlib.Data.List.DropRight
import Mathlib.Data.List.Forall2

/-!
# Pattern files put together

A text is read line by line, where a carriage return in front of a line feed belongs to the line
end. The same patterns are found if lines end at line feeds only: the carriage return is then a
blank at the end of its line, and blanks are trimmed. So texts joined by a line feed hold the
patterns of the one and then those of the other, whatever the first one ends with.

A pattern that was found stands on one line, is trimmed, is not empty and is no comment. Written
one to a line, patterns of that form are found again, and a matcher keeps them as they are.
-/

namespace StableTypes

namespace Text

/-- Cutting a list of characters at a separator is cutting a list. -/
theorem splitChars_eq_splitOn (separator : Char) (cs : List Char) :
    splitChars (· == separator) cs = cs.splitOn separator := by
  induction cs with
  | nil => rfl
  | cons c rest ih =>
    rw [splitChars, ih, List.splitOn_cons_eq_if_modifyHead]
    split
    · rfl
    · rcases pieces : rest.splitOn separator with _ | ⟨piece, others⟩
      · exact absurd pieces (List.splitOn_ne_nil separator rest)
      · rfl

/-- No piece has the separator in it. -/
theorem notMem_of_mem_splitOn {separator : Char} {cs piece : List Char}
    (member : piece ∈ cs.splitOn separator) : separator ∉ piece := by
  induction cs generalizing piece with
  | nil => simp_all
  | cons c rest ih =>
    rw [List.splitOn_cons_eq_if_modifyHead] at member
    split at member
    · rcases List.mem_cons.mp member with rfl | later
      · exact List.not_mem_nil
      · exact ih later
    next other =>
      rcases pieces : rest.splitOn separator with _ | ⟨first, others⟩
      · simp [pieces] at member
      · rw [pieces, List.modifyHead_cons, List.mem_cons] at member
        rcases member with rfl | later
        · have separated : separator ∉ first := ih (by simp [pieces])
          simpa [separated] using fun same => other (beq_iff_eq.mpr same.symm)
        · exact ih (by simp [pieces, later])

/-- Trimming drops blanks at the front and then at the back. -/
theorem trimChars_eq (cs : List Char) :
    trimChars cs = (cs.dropWhile isBlank).rdropWhile isBlank := rfl

/-- Trimming a second time changes nothing. -/
theorem trimChars_trimChars (cs : List Char) : trimChars (trimChars cs) = trimChars cs := by
  have front : (trimChars cs).dropWhile isBlank = trimChars cs := by
    obtain ⟨blanks, whole⟩ : trimChars cs <+: cs.dropWhile isBlank := List.rdropWhile_prefix _ _
    rcases trimmed : trimChars cs with _ | ⟨c, rest⟩
    · rfl
    · have notBlank := List.head?_dropWhile_not isBlank cs
      rw [← whole, trimmed] at notBlank
      exact List.dropWhile_cons_of_neg (by simpa using notBlank)
  rw [trimChars_eq (trimChars cs), front]
  exact List.rdropWhile_idempotent _ _

/-- A blank at the end does not count. -/
theorem trimChars_concat {c : Char} (blank : isBlank c = true) (cs : List Char) :
    trimChars (cs ++ [c]) = trimChars cs := by
  rw [trimChars_eq, trimChars_eq, List.dropWhile_append]
  split
  next empty =>
    rw [List.isEmpty_iff.mp empty, List.dropWhile_cons_of_pos blank]
    rfl
  next => exact List.rdropWhile_concat_pos _ _ _ blank

/-- Trimming adds no character. -/
theorem mem_of_mem_trimChars {c : Char} {cs : List Char} (member : c ∈ trimChars cs) : c ∈ cs :=
  (List.dropWhile_sublist _).subset ((List.rdropWhile_prefix _ _).subset member)

end Text

namespace PatternLines

open Text

/-- The lines of a text. A line ends at a line feed, and a carriage return in front of the line
feed belongs to the line end. -/
def lines : List Char → List (List Char)
  | [] => [[]]
  | '\r' :: '\n' :: rest => [] :: lines rest
  | '\n' :: rest => [] :: lines rest
  | c :: rest => (lines rest).modifyHead (c :: ·)

/-- The pieces between line feeds are the lines, some with a carriage return at the end. -/
theorem splitOn_lines (text : List Char) :
    List.Forall₂ (fun piece line => piece = line ∨ piece = line ++ ['\r'])
      (text.splitOn '\n') (lines text) := by
  fun_induction lines text with
  | case1 => exact .cons (.inl rfl) .nil
  | case2 rest ih => exact .cons (.inr rfl) ih
  | case3 rest ih => exact .cons (.inl rfl) ih
  | case4 c rest _ noFeed ih =>
    rw [List.splitOn_cons_eq_if_modifyHead, if_neg (by simpa using noFeed)]
    generalize rest.splitOn '\n' = pieces at ih ⊢
    generalize lines rest = lines at ih ⊢
    cases ih with
    | nil => exact .nil
    | cons first others =>
      exact .cons (first.imp (congrArg (c :: ·)) (congrArg (c :: ·))) others

/-- Every text has a line. -/
theorem lines_ne_nil (text : List Char) : lines text ≠ [] := by
  have lengths := (splitOn_lines text).length_eq
  intro none
  rw [none] at lengths
  exact List.splitOn_ne_nil _ _ (List.eq_nil_of_length_eq_zero lengths)

/-- A carriage return with a line feed ends a line, whatever stands before it. -/
theorem lines_append (first rest : List Char) :
    lines (first ++ '\r' :: '\n' :: rest) = lines first ++ lines rest := by
  fun_induction lines first with
  | case1 => rfl
  | case2 first ih => exact congrArg (List.cons []) ih
  | case3 first ih => exact congrArg (List.cons []) ih
  | case4 c first noReturn noFeed ih =>
    -- The first text may end in a carriage return, but what follows it is no line feed.
    have inLine : ∀ more, c = '\r' → first ++ '\r' :: '\n' :: rest = '\n' :: more → False := by
      intro more isReturn next
      cases first with
      | nil => cases next
      | cons other first =>
        rw [List.cons_append, List.cons.injEq] at next
        exact noReturn first isReturn (congrArg (· :: first) next.1)
    rw [List.cons_append, lines.eq_4 _ _ inLine noFeed, ih]
    rcases some : lines first with _ | ⟨line, others⟩
    · exact absurd some (lines_ne_nil first)
    · rfl

/-- The patterns of a text are those of its lines. -/
theorem patternChars_eq (text : List Char) :
    patternChars text = ((lines text).map trimChars).filter isPattern := by
  have blank : isBlank '\r' = true := by decide
  have trimmed : (text.splitOn '\n').map trimChars = (lines text).map trimChars := by
    rw [← List.forall₂_eq_eq_eq, List.forall₂_map_left_iff, List.forall₂_map_right_iff]
    refine (splitOn_lines text).imp fun piece line related => ?_
    rcases related with rfl | rfl
    · rfl
    · exact trimChars_concat blank line
  rw [patternChars, splitChars_eq_splitOn, trimmed]

/-- The patterns of texts joined by a line feed are those of the one and then of the other. -/
theorem patternChars_append (first rest : List Char) :
    patternChars (first ++ '\n' :: rest) = patternChars first ++ patternChars rest := by
  simp only [patternChars, splitChars_eq_splitOn]
  rw [List.splitOn_append_cons_self, List.map_append, List.filter_append]

/-- The form of a pattern that was found. -/
structure Found (line : List Char) : Prop where
  /-- It stands on one line. -/
  one_line : '\n' ∉ line
  /-- It has no blanks around it. -/
  trimmed : trimChars line = line
  /-- It is not empty and no comment. -/
  pattern : isPattern line = true

/-- Every pattern of a text is of that form. -/
theorem found_of_mem {text line : List Char} (member : line ∈ patternChars text) : Found line := by
  rw [patternChars, splitChars_eq_splitOn, List.mem_filter, List.mem_map] at member
  obtain ⟨⟨piece, among, rfl⟩, pattern⟩ := member
  exact ⟨fun feed => notMem_of_mem_splitOn among (mem_of_mem_trimChars feed),
    trimChars_trimChars piece, pattern⟩

/-- Patterns of that form are found again if they stand one to a line. -/
theorem patternChars_intercalate {patterns : List (List Char)}
    (found : ∀ line ∈ patterns, Found line) :
    patternChars (['\n'].intercalate patterns) = patterns := by
  rcases List.eq_nil_or_concat patterns with rfl | ⟨before, last, rfl⟩
  · rfl
  · have cut := List.splitOn_intercalate '\n' (fun line member => (found line member).one_line)
      (by simp)
    have trimmed := List.map_congr_left fun line member => (found line member).trimmed
    rw [patternChars, splitChars_eq_splitOn, cut, trimmed, List.map_id']
    exact List.filter_eq_self.mpr fun line member => (found line member).pattern

/-- The patterns of a text as lists of characters. -/
theorem map_toList_parse (text : String) :
    (parse text).map String.toList = patternChars text.toList := by
  rw [parse, List.map_map]
  exact List.map_id'' (fun _ => String.toList_ofList) _

end PatternLines

namespace PatternMatcher

/-- A pattern made ready is still the pattern. -/
theorem pattern_ofPattern (pattern : String) :
    (CompiledPattern.ofPattern pattern).pattern = pattern := by
  rw [CompiledPattern.ofPattern]
  split <;> rfl

/-- The patterns of a matcher are those of the list that are not blank, trimmed. -/
theorem patterns_ofPatterns (patterns : List String) :
    (ofPatterns patterns).patterns = usable patterns := by
  simp only [PatternMatcher.patterns, ofPatterns, List.map_map, Function.comp_def,
    pattern_ofPattern, List.map_id']

/-- Patterns that were found in a text are usable as they are. -/
theorem usable_parse (text : String) :
    usable (PatternLines.parse text) = PatternLines.parse text := by
  have found : ∀ pattern ∈ PatternLines.parse text, PatternLines.Found pattern.toList := by
    intro pattern member
    have among : pattern.toList ∈ PatternLines.patternChars text.toList := by
      rw [← PatternLines.map_toList_parse]
      exact List.mem_map_of_mem member
    exact PatternLines.found_of_mem among
  have trimmed : ∀ pattern ∈ PatternLines.parse text, Text.trim pattern = pattern := by
    intro pattern member
    rw [Text.trim, (found pattern member).trimmed, String.ofList_toList]
  rw [usable, List.map_congr_left trimmed, List.map_id', List.filter_eq_self]
  intro pattern member
  have nonempty := (found pattern member).pattern
  rw [decide_eq_true_iff]
  rintro rfl
  exact absurd nonempty (by decide)

end PatternMatcher

open PatternLines in
/-- The patterns of a text are those of its lines, where a line ends at a line feed or at a carriage
return with a line feed. The patterns of joined texts are those of the one and then those of the
other. Patterns written one to a line are found again, and a matcher keeps them all as they are. -/
theorem pattern_files_compose :
    (∀ text, parse text =
      (((lines text.toList).map Text.trimChars).filter isPattern).map String.ofList) ∧
    (∀ first rest, parse (first ++ "\n" ++ rest) = parse first ++ parse rest) ∧
    (∀ first rest, parse (first ++ "\r\n" ++ rest) = parse first ++ parse rest) ∧
    (∀ text, parse ("\n".intercalate (parse text)) = parse text) ∧
    (∀ text, (PatternMatcher.ofPatterns (parse text)).patterns = parse text) := by
  have joined : ∀ first rest, parse (first ++ "\n" ++ rest) = parse first ++ parse rest := by
    intro first rest
    have chars : (first ++ "\n" ++ rest).toList = first.toList ++ '\n' :: rest.toList := by simp
    rw [parse, chars, patternChars_append, List.map_append]
    rfl
  refine ⟨fun text => ?_, joined, fun first rest => ?_, fun text => ?_, fun text => ?_⟩
  · rw [parse, patternChars_eq]
  · have chars : (first ++ "\r\n" ++ rest).toList =
        first.toList ++ '\r' :: '\n' :: rest.toList := by simp
    simp only [parse, chars, patternChars_eq, lines_append, List.map_append, List.filter_append]
  · have found : ∀ line ∈ patternChars text.toList, Found line := fun _ => found_of_mem
    have chars : ("\n".intercalate (parse text)).toList =
        ['\n'].intercalate (patternChars text.toList) := by
      rw [String.toList_intercalate, map_toList_parse]
      rfl
    rw [parse, chars, patternChars_intercalate found, parse]
  · rw [PatternMatcher.patterns_ofPatterns, PatternMatcher.usable_parse]

end StableTypes
