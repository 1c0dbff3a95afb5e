import StableTypes.Proofs.GlobExpression
import StableTypes.Pattern.Matcher

/-!
# Matching the expression of a glob

The expression of a glob matches the texts that are cut into one word for each piece, in their
order. Backtracking tries the longest words first and gives units back until the rest fits, so the
order of its attempts does not matter to whether there is a match: an iteration of a unit test is
followed by the work that is left behind every word that passes the test unit by unit. The anchors
make the words cover the whole text.
-/

namespace StableTypes

open Regex

/-- The place behind a word that is read from here. -/
def Regex.Cursor.past (here : Cursor) (word : List Nat) : Cursor :=
  ⟨here.position + word.length, word.reverse ++ here.before, here.after.drop word.length,
    here.captures⟩

theorem Regex.Cursor.past_past (here : Cursor) (first second : List Nat) :
    (here.past first).past second = here.past (first ++ second) := by
  simp [Cursor.past, Nat.add_assoc]

theorem Regex.Cursor.after_past {here : Cursor} {word rest : List Nat}
    (split : here.after = word ++ rest) : (here.past word).after = rest := by
  simp [Cursor.past, split]

/-- Runs a test of one unit, forward. -/
def Regex.runUnit (test : Nat → Bool) (here : Cursor) (rest : Cursor → Option Cursor) :
    Option Cursor :=
  (here.accept true test).bind rest

/-- A unit that passes comes next, or none does. -/
theorem Regex.Cursor.passes_or_fails (test : Nat → Bool) (here : Cursor) :
    (∃ unit tail, here.after = unit :: tail ∧ test unit = true) ∨
      ∀ unit ∈ here.after.head?, test unit = false := by
  cases here.after with
  | nil => simp
  | cons unit tail => simp

/-- A unit that comes next and passes is consumed. -/
theorem Regex.runUnit_pass {test : Nat → Bool} {here : Cursor} {unit : Nat} {tail : List Nat}
    (next : here.after = unit :: tail) (passes : test unit = true)
    (rest : Cursor → Option Cursor) : runUnit test here rest = rest (here.past [unit]) := by
  simp [runUnit, Cursor.accept, Cursor.next, Cursor.past, next, passes]

/-- Where no unit comes next that passes, a test fails. -/
theorem Regex.runUnit_fail {test : Nat → Bool} {here : Cursor}
    (fails : ∀ unit ∈ here.after.head?, test unit = false) (rest : Cursor → Option Cursor) :
    runUnit test here rest = none := by
  obtain ⟨position, before, after, captures⟩ := here
  cases after with
  | nil => rfl
  | cons unit after => simp [runUnit, Cursor.accept, Cursor.next, fails unit rfl]

/-- A test is followed by the work that is left behind a unit that passes. -/
theorem Regex.runUnit_isSome_iff (test : Nat → Bool) (here : Cursor)
    (rest : Cursor → Option Cursor) :
    (runUnit test here rest).isSome ↔
      ∃ unit tail, here.after = unit :: tail ∧ test unit = true ∧
        (rest (here.past [unit])).isSome := by
  constructor
  · intro found
    rcases here.passes_or_fails test with ⟨unit, tail, next, passes⟩ | fails
    · exact ⟨unit, tail, next, passes, by rwa [runUnit_pass next passes] at found⟩
    · simp [runUnit_fail fails] at found
  · rintro ⟨unit, tail, next, passes, reached⟩
    rwa [runUnit_pass next passes]

/-- The rounds of a unit test: as many units as pass, or as few as the work that is left needs. -/
def Regex.unitRounds (test : Nat → Bool) (fuel : Nat) (here : Cursor)
    (rest : Cursor → Option Cursor) : Option Cursor :=
  rounds (runUnit test) true 0 0 fuel 0 none here rest

/-- One more round: the unit that comes next is taken if it passes, and the rounds end here where
that leads nowhere. -/
theorem Regex.unitRounds_succ (test : Nat → Bool) (fuel : Nat) (here : Cursor)
    (rest : Cursor → Option Cursor) :
    unitRounds test (fuel + 1) here rest =
      (runUnit test here fun there => unitRounds test fuel there rest).or (rest here) := by
  -- a unit moves the place, so the check for empty rounds stops none of them
  have moved : (runUnit test (here.forget 0 0) fun there =>
      if 0 = 0 ∧ there.position = here.position then none
      else rounds (runUnit test) true 0 0 fuel (0 - 1) (Option.map (· - 1) none) there rest) =
      runUnit test here fun there => unitRounds test fuel there rest := by
    change runUnit test here _ = _
    rcases here.passes_or_fails test with ⟨unit, tail, next, passes⟩ | fails
    · rw [runUnit_pass next passes, runUnit_pass next passes, if_neg (by simp [Cursor.past])]
      rfl
    · rw [runUnit_fail fails, runUnit_fail fails]
  rw [unitRounds, rounds, if_neg (by simp)]
  dsimp only
  rw [if_neg (Nat.lt_irrefl 0), if_pos rfl, moved]
  cases runUnit test here fun there => unitRounds test fuel there rest <;> rfl

/-- Enough rounds of a unit test are followed by the work that is left behind every word that
passes it. -/
theorem Regex.unitRounds_isSome_iff (test : Nat → Bool) (rest : Cursor → Option Cursor)
    {fuel : Nat} {here : Cursor} (enough : here.after.length < fuel) :
    (unitRounds test fuel here rest).isSome ↔
      ∃ word tail, here.after = word ++ tail ∧ (∀ unit ∈ word, test unit = true) ∧
        (rest (here.past word)).isSome := by
  induction fuel generalizing here with
  | zero => exact absurd enough (Nat.not_lt_zero _)
  | succ fuel ih =>
    have behind : ∀ {unit tail}, here.after = unit :: tail →
        (here.past [unit]).after = tail ∧ (here.past [unit]).after.length < fuel := by
      intro unit tail next
      have after : (here.past [unit]).after = tail := Cursor.after_past next
      rw [next, List.length_cons] at enough
      exact ⟨after, by rw [after]; omega⟩
    rw [unitRounds_succ, Option.isSome_or, Bool.or_eq_true, runUnit_isSome_iff]
    constructor
    · rintro (⟨unit, tail, next, passes, found⟩ | found)
      · obtain ⟨after, shorter⟩ := behind next
        obtain ⟨word, left, split, others, reached⟩ := (ih shorter).mp found
        refine ⟨unit :: word, left, ?_, List.forall_mem_cons.mpr ⟨passes, others⟩, ?_⟩
        · rw [next, ← after, split, List.cons_append]
        · rwa [Cursor.past_past] at reached
      · exact ⟨[], here.after, rfl, by simp, found⟩
    · rintro ⟨word, left, split, all, reached⟩
      cases word with
      | nil => exact .inr reached
      | cons unit word =>
        obtain ⟨passes, others⟩ := List.forall_mem_cons.mp all
        obtain ⟨after, shorter⟩ := behind split
        refine .inl ⟨unit, word ++ left, split, passes,
          (ih shorter).mpr ⟨word, left, after, others, ?_⟩⟩
        rwa [Cursor.past_past]

namespace Glob

/-- A piece takes a unit. -/
def Piece.takes : Piece → Nat → Bool
  | .anyRun, unit => !isLineEnd unit
  | .segmentRun, unit => unit != 0x2E
  | .itself c, unit => unit == c.toNat
  | .plain c, unit => unit == c.toNat

/-- A piece stands for runs of any length. -/
def Piece.repeats : Piece → Bool
  | .anyRun | .segmentRun => true
  | .itself _ | .plain _ => false

/-- A word is made of units that a piece takes, and of one unit unless the piece is a run. -/
def Piece.Admits (piece : Piece) (word : List Nat) : Prop :=
  (∀ unit ∈ word, piece.takes unit = true) ∧ (piece.repeats = false → word.length = 1)

/-- A text is made of one word for each piece, in their order. -/
def AdmitsAll : List Piece → List Nat → Prop
  | [], text => text = []
  | piece :: pieces, text =>
    ∃ word rest, text = word ++ rest ∧ piece.Admits word ∧ AdmitsAll pieces rest

/-- The term of a piece is followed by the work that is left behind every word of the piece. -/
theorem run_term_isSome_iff (piece : Piece) (here : Cursor) (rest : Cursor → Option Cursor) :
    (run piece.term true here rest).isSome ↔
      ∃ word tail, here.after = word ++ tail ∧ piece.Admits word ∧
        (rest (here.past word)).isSome := by
  have runs : ∀ test : Nat → Bool,
      (unitRounds test (0 + here.left true + 1) here rest).isSome ↔
        ∃ word tail, here.after = word ++ tail ∧ (∀ unit ∈ word, test unit = true) ∧
          (rest (here.past word)).isSome := by
    intro test
    exact unitRounds_isSome_iff test rest (by simp [Cursor.left])
  have single : ∀ test : Nat → Bool, (runUnit test here rest).isSome ↔
      ∃ word tail, here.after = word ++ tail ∧
        ((∀ unit ∈ word, test unit = true) ∧ word.length = 1) ∧
          (rest (here.past word)).isSome := by
    intro test
    rw [runUnit_isSome_iff]
    constructor
    · rintro ⟨unit, tail, next, passes, reached⟩
      exact ⟨[unit], tail, next, by simpa using passes, reached⟩
    · rintro ⟨word, tail, split, ⟨all, one⟩, reached⟩
      obtain ⟨unit, rfl⟩ := List.length_eq_one_iff.mp one
      exact ⟨unit, tail, split, all unit (.head _), reached⟩
  cases piece with
  | anyRun =>
    refine (runs fun unit => isLineEnd unit != true).trans ?_
    simp [Piece.Admits, Piece.takes, Piece.repeats]
  | segmentRun =>
    refine (runs fun unit => holds [(0x2E, 0x2E)] unit != true).trans ?_
    have dot : ∀ unit, (holds [(0x2E, 0x2E)] unit = false) ↔ ¬unit = 0x2E := by
      intro unit
      simp [holds]
      omega
    simp [Piece.Admits, Piece.takes, Piece.repeats, dot]
  | itself c =>
    refine (single fun unit => unit == c.toNat).trans ?_
    simp [Piece.Admits, Piece.takes, Piece.repeats]
  | plain c =>
    refine (single fun unit => unit == c.toNat).trans ?_
    simp [Piece.Admits, Piece.takes, Piece.repeats]

/-- The sequence of some pieces is followed by the work that is left behind every text that is made
of their words. -/
theorem run_sequence_isSome_iff (pieces : List Piece) (here : Cursor)
    (rest : Cursor → Option Cursor) :
    (run (sequence pieces) true here rest).isSome ↔
      ∃ text tail, here.after = text ++ tail ∧ AdmitsAll pieces text ∧
        (rest (here.past text)).isSome := by
  induction pieces generalizing here with
  | nil =>
    constructor
    · intro reached
      exact ⟨[], here.after, rfl, rfl, reached⟩
    · rintro ⟨text, tail, -, rfl, reached⟩
      exact reached
  | cons piece pieces ih =>
    have chained : run (sequence (piece :: pieces)) true here rest =
        run piece.term true here fun there => run (sequence pieces) true there rest := by
      simp [sequence, run]
    rw [chained, run_term_isSome_iff]
    constructor
    · rintro ⟨word, behind, split, admits, found⟩
      obtain ⟨text, tail, others, admitsAll, reached⟩ := (ih _).mp found
      rw [Cursor.after_past split] at others
      rw [Cursor.past_past] at reached
      exact ⟨word ++ text, tail, by rw [split, others, List.append_assoc],
        ⟨word, text, rfl, admits, admitsAll⟩, reached⟩
    · rintro ⟨_, tail, split, ⟨word, text, rfl, admits, admitsAll⟩, reached⟩
      rw [List.append_assoc] at split
      refine ⟨word, text ++ tail, split, admits, (ih _).mpr ⟨text, tail, ?_, admitsAll, ?_⟩⟩
      · exact Cursor.after_past split
      · rwa [Cursor.past_past]

/-- An expression that begins at the start of a text matches nowhere behind it. -/
theorem searchFrom_atStart (expression : Regex) (position unit : Nat) (before after : List Nat) :
    searchFrom (.seq (.atStart false) expression) position (unit :: before) after = none := by
  induction after generalizing position unit before with
  | nil => simp [searchFrom, run]
  | cons next after ih => simp [searchFrom, run, ih]

/-- The sequence of some pieces between anchors matches the texts that are made of their words. -/
theorem test_anchored_iff (pieces : List Piece) (text : List Nat) :
    (anchored pieces).test text = true ↔ AdmitsAll pieces text := by
  have fromStart : (anchored pieces).test text =
      (run (anchored pieces) true (.ofUnits text) some).isSome := by
    cases text with
    | nil => simp [test, searchFrom, Cursor.ofUnits]
    | cons unit text =>
      rw [test, searchFrom, anchored, searchFrom_atStart, ← anchored]
      cases found : run (anchored pieces) true ⟨0, [], unit :: text, []⟩ some <;>
        simp [Cursor.ofUnits, found]
  have inside : run (anchored pieces) true (.ofUnits text) some =
      run (sequence pieces) true (.ofUnits text) fun there =>
        if there.after.isEmpty then some there else none := by
    simp [anchored, run, Cursor.ofUnits]
  rw [fromStart, inside, run_sequence_isSome_iff]
  constructor
  · rintro ⟨whole, tail, split, admits, reached⟩
    rw [Cursor.after_past split] at reached
    cases tail with
    | nil =>
      have same : text = whole := split.trans (List.append_nil whole)
      rwa [same]
    | cons unit tail => simp at reached
  · intro admits
    refine ⟨text, [], (List.append_nil _).symm, admits, ?_⟩
    simp [Cursor.past, Cursor.ofUnits]

end Glob

end StableTypes
