import StableTypes.Proofs.GlobRewriting

/-!
# The expression of a glob

The text made from a glob of letters, digits, low lines, dots, dollar signs and asterisks spells an
expression: between its anchors there is one term for each piece, read from left to right. What a
piece writes is read as one term because nothing behind it can be a quantifier. No piece opens a
group, so the pattern declares no captures.
-/

namespace StableTypes

open Regex

namespace Glob

/-- The term of a piece. -/
def Piece.term : Piece → Regex
  | .anyRun => .iterate 0 none true 0 0 anyInLine
  | .segmentRun => .iterate 0 none true 0 0 (.oneOf true [(0x2E, 0x2E)])
  | .itself c => .exactly c.toNat
  | .plain c => .exactly c.toNat

/-- The expression of some pieces, one term after the other. -/
def sequence : List Piece → Regex
  | [] => .empty
  | piece :: rest => .seq piece.term (sequence rest)

/-- The units of the text of a piece. -/
def Piece.units (piece : Piece) : List Nat := piece.source.flatMap Text.unitsOf

/-- A piece of a glob of word characters, dots, dollar signs and asterisks. -/
inductive Piece.IsOrdinary : Piece → Prop
  /-- Two asterisks. -/
  | anyRun : IsOrdinary .anyRun
  /-- One asterisk. -/
  | segmentRun : IsOrdinary .segmentRun
  /-- A dot or a dollar sign. -/
  | itself {c : Char} : c = '.' ∨ c = '$' → IsOrdinary (.itself c)
  /-- A letter, a digit or a low line. -/
  | plain {c : Char} : isWord c.toNat = true → IsOrdinary (.plain c)

/-- The units of the text of some pieces. -/
def unitsAll (pieces : List Piece) : List Nat := pieces.flatMap Piece.units

/-- No quantifier stands at the head of the units. -/
def Steady (units : List Nat) : Prop :=
  ∀ unit ∈ units.head?, unit ≠ 0x2A ∧ unit ≠ 0x2B ∧ unit ≠ 0x3F ∧ unit ≠ 0x7B

variable {piece : Piece} {pieces : List Piece} {rest : List Nat}

/-- The ranges of word units, written out. -/
theorem isWord_iff {unit : Nat} : isWord unit = true ↔
    (0x30 ≤ unit ∧ unit ≤ 0x39) ∨ (0x41 ≤ unit ∧ unit ≤ 0x5A) ∨ unit = 0x5F ∨
      (0x61 ≤ unit ∧ unit ≤ 0x7A) := by
  simp [isWord, holds, wordRanges]
  omega

/-- Before units that begin with no quantifier an atom is a term. -/
theorem quantified?_of_steady (steady : Steady rest) (atom : Regex) :
    quantified? atom 0 0 rest = some (atom, rest) := by
  have none : quantifier? rest = none := by
    cases rest with
    | nil => rfl
    | cons unit rest =>
      obtain ⟨star, plus, question, brace⟩ := steady unit rfl
      unfold quantifier?
      split <;> simp_all
  rw [quantified?, none]

/-- An asterisk before units that begin with no quantifier iterates an atom. -/
theorem quantified?_star (steady : Steady rest) (atom : Regex) :
    quantified? atom 0 0 (0x2A :: rest) = some (.iterate 0 none true 0 0 atom, rest) := by
  have notLazy : ∀ more, rest ≠ 0x3F :: more := by
    rintro more rfl
    exact (steady 0x3F rfl).2.2.1 rfl
  have star : quantifier? (0x2A :: rest) = some (0, none, rest) := rfl
  rw [quantified?, star]
  dsimp only
  rw [if_neg (by simp)]
  split
  · exact absurd rfl (notLazy _)
  · rfl

/-- What a pattern without captures declares. -/
def noCaptures : Scope := ⟨0, []⟩

/-- A dot or a dollar sign behind a backslash is read as the unit that it is. -/
theorem term?_escaped {unit : Nat} (escapes : unit = 0x2E ∨ unit = 0x24) (steady : Steady rest)
    (fuel : Nat) :
    term? noCaptures (fuel + 1) 0 0x5C (unit :: rest) = some (.exactly unit, 0, rest) := by
  have read := quantified?_of_steady steady (.exactly unit)
  unfold term?
  rcases escapes with rfl | rfl
  · exact congrArg (Option.map _) read
  · exact congrArg (Option.map _) read

/-- The units of an ordinary piece begin with one that starts a term and no quantifier, and are
read as the term of the piece. -/
theorem term?_units (ordinary : piece.IsOrdinary) :
    ∃ unit tail, piece.units = unit :: tail ∧ unit ≠ 0x7C ∧ unit ≠ 0x29 ∧ Steady [unit] ∧
      ∀ fuel rest, Steady rest →
        term? noCaptures (fuel + 1) 0 unit (tail ++ rest) = some (piece.term, 0, rest) := by
  cases ordinary with
  | anyRun =>
    refine ⟨0x2E, [0x2A], rfl, by decide, by decide, by simp [Steady], fun fuel rest steady => ?_⟩
    unfold term?
    change (quantified? anyInLine 0 0 (0x2A :: rest)).map _ = _
    rw [quantified?_star steady]
    rfl
  | segmentRun =>
    refine ⟨0x5B, [0x5E, 0x2E, 0x5D, 0x2A], rfl, by decide, by decide, by simp [Steady],
      fun fuel rest steady => ?_⟩
    unfold term?
    change (quantified? (.oneOf true [(0x2E, 0x2E)]) 0 0 (0x2A :: rest)).map _ = _
    rw [quantified?_star steady]
    rfl
  | @itself c escapes =>
    have code : c.toNat = 0x2E ∨ c.toNat = 0x24 := by
      rcases escapes with rfl | rfl
      · exact .inl rfl
      · exact .inr rfl
    have units : (Piece.itself c).units = [0x5C, c.toNat] := by
      rcases escapes with rfl | rfl <;> rfl
    exact ⟨0x5C, [c.toNat], units, by decide, by decide, by simp [Steady],
      fun fuel rest steady => term?_escaped code steady fuel⟩
  | @plain c word =>
    have ranges := isWord_iff.mp word
    have units : (Piece.plain c).units = [c.toNat] := by
      have small : c.toNat < 0x10000 := by omega
      simp [Piece.units, Piece.source, Text.unitsOf, small]
    refine ⟨c.toNat, [], units, by omega, by omega, ?_, fun fuel rest steady => ?_⟩
    · intro unit first
      cases first
      omega
    · unfold term?
      rw [if_neg (by omega), if_neg (by omega), if_neg (by omega), if_neg (by omega),
        if_neg (by omega), if_neg (by omega), if_neg (by omega), if_neg (by omega),
        List.nil_append, quantified?_of_steady steady]
      rfl

/-- Behind the units of ordinary pieces a closing parenthesis is no quantifier, and neither is what
a piece begins with. -/
theorem steady_unitsAll (ordinary : ∀ piece ∈ pieces, piece.IsOrdinary) (rest : List Nat) :
    Steady (unitsAll pieces ++ 0x29 :: rest) := by
  cases pieces with
  | nil => simp [Steady, unitsAll]
  | cons piece pieces =>
    obtain ⟨unit, tail, units, -, -, steady, -⟩ := term?_units (ordinary piece (.head _))
    rw [unitsAll, List.flatMap_cons, units]
    exact steady

/-- The units of ordinary pieces are read as their sequence up to a closing parenthesis. -/
theorem branch?_unitsAll (ordinary : ∀ piece ∈ pieces, piece.IsOrdinary) (rest : List Nat)
    {fuel : Nat} (enough : pieces.length < fuel) :
    branch? noCaptures fuel 0 (unitsAll pieces ++ 0x29 :: rest) =
      some (sequence pieces, 0, 0x29 :: rest) := by
  induction pieces generalizing fuel with
  | nil =>
    obtain ⟨fuel, rfl⟩ : ∃ less, fuel = less + 1 := ⟨fuel - 1, by simp at enough; omega⟩
    change branch? noCaptures (fuel + 1) 0 (0x29 :: rest) = _
    rw [branch?]
    rfl
  | cons piece pieces ih =>
    obtain ⟨first, others⟩ := List.forall_mem_cons.mp ordinary
    obtain ⟨unit, tail, units, noBar, noParenthesis, -, read⟩ := term?_units first
    obtain ⟨fuel, rfl⟩ : ∃ less, fuel = less + 2 :=
      ⟨fuel - 2, by simp only [List.length_cons] at enough; omega⟩
    have more : pieces.length < fuel + 1 := by
      simp only [List.length_cons] at enough
      omega
    rw [unitsAll, List.flatMap_cons, units, ← unitsAll, List.append_assoc, List.cons_append,
      branch?, if_neg (by omega), read fuel _ (steady_unitsAll others rest)]
    dsimp only
    rw [ih others more]
    rfl

/-- A pattern without opening parentheses declares nothing. -/
theorem scopeFrom_of_closed (scope : Scope) (inClass : Bool) {units : List Nat}
    (closed : 0x28 ∉ units) : scopeFrom scope inClass units = scope := by
  fun_induction scopeFrom scope inClass units <;> simp_all

/-- The units of ordinary pieces between anchors. -/
def anchoredUnits (pieces : List Piece) : List Nat :=
  0x5E :: 0x28 :: 0x3F :: 0x3A :: (unitsAll pieces ++ [0x29, 0x24])

/-- The sequence of some pieces between anchors. -/
def anchored (pieces : List Piece) : Regex :=
  .seq (.atStart false) (.seq (sequence pieces) (.seq (.atEnd false) .empty))

/-- The group around ordinary pieces is read as their sequence. -/
theorem group?_unitsAll (ordinary : ∀ piece ∈ pieces, piece.IsOrdinary) {fuel : Nat}
    (enough : pieces.length < fuel) :
    group? noCaptures (fuel + 2) 0 (0x3F :: 0x3A :: (unitsAll pieces ++ [0x29, 0x24])) =
      some (sequence pieces, 0, [0x24]) := by
  rw [group?, choice?, branch?_unitsAll ordinary [0x24] enough]
  rfl

/-- The units between anchors are read as the sequence between anchors. -/
theorem choice?_anchoredUnits (ordinary : ∀ piece ∈ pieces, piece.IsOrdinary) {fuel : Nat}
    (enough : pieces.length < fuel) :
    choice? noCaptures (fuel + 6) 0 (anchoredUnits pieces) = some (anchored pieces, 0, []) := by
  have start : ∀ rest,
      term? noCaptures (fuel + 4) 0 0x5E rest = some (.atStart false, 0, rest) := by
    intro rest
    unfold term?
    rfl
  have group : term? noCaptures (fuel + 3) 0 0x28
      (0x3F :: 0x3A :: (unitsAll pieces ++ [0x29, 0x24])) = some (sequence pieces, 0, [0x24]) := by
    unfold term?
    exact group?_unitsAll ordinary enough
  have stop : branch? noCaptures (fuel + 3) 0 [0x24] =
      some (.seq (.atEnd false) .empty, 0, []) := by
    have last : term? noCaptures (fuel + 2) 0 0x24 [] = some (.atEnd false, 0, []) := by
      unfold term?
      rfl
    rw [branch?, if_neg (by decide), last]
    dsimp only
    rw [branch?]
  have branch : branch? noCaptures (fuel + 5) 0 (anchoredUnits pieces) =
      some (anchored pieces, 0, []) := by
    rw [anchoredUnits, branch?, if_neg (by decide), start]
    dsimp only
    rw [branch?, if_neg (by decide), group]
    dsimp only
    rw [stop]
    rfl
  rw [choice?, branch]

/-- Every piece has at least one unit. -/
theorem length_le_unitsAll (ordinary : ∀ piece ∈ pieces, piece.IsOrdinary) :
    pieces.length ≤ (unitsAll pieces).length := by
  induction pieces with
  | nil => exact Nat.zero_le _
  | cons piece pieces ih =>
    obtain ⟨first, others⟩ := List.forall_mem_cons.mp ordinary
    obtain ⟨unit, tail, units, -⟩ := term?_units first
    have shorter := ih others
    rw [unitsAll, List.flatMap_cons, ← unitsAll, units, List.length_append, List.length_cons,
      List.length_cons]
    omega

/-- No ordinary piece opens a group. -/
theorem closed_unitsAll (ordinary : ∀ piece ∈ pieces, piece.IsOrdinary) :
    0x28 ∉ unitsAll pieces := by
  intro member
  obtain ⟨piece, among, inside⟩ := List.mem_flatMap.mp member
  cases ordinary piece among with
  | anyRun => exact absurd inside (by decide)
  | segmentRun => exact absurd inside (by decide)
  | itself escapes =>
    rcases escapes with rfl | rfl
    · exact absurd inside (by decide)
    · exact absurd inside (by decide)
  | @plain c word =>
    have ranges := isWord_iff.mp word
    have small : c.toNat < 0x10000 := by omega
    simp [Piece.units, Piece.source, Text.unitsOf, small] at inside
    omega

/-- The units between anchors spell the sequence between anchors. -/
theorem parse?_anchoredUnits (ordinary : ∀ piece ∈ pieces, piece.IsOrdinary) :
    Regex.parse? (anchoredUnits pieces) = some (anchored pieces) := by
  have closed : 0x28 ∉ 0x3A :: (unitsAll pieces ++ [0x29, 0x24]) := by
    have inside := closed_unitsAll ordinary
    simp [inside]
  have scope : scopeFrom ⟨0, []⟩ false (anchoredUnits pieces) = noCaptures := by
    have rest := scopeFrom_of_closed noCaptures false closed
    rw [anchoredUnits, scopeFrom, scopeFrom]
    · exact rest
    all_goals simp
  have short := length_le_unitsAll ordinary
  obtain ⟨fuel, enough, bound⟩ : ∃ fuel, 4 * (anchoredUnits pieces).length + 4 = fuel + 6 ∧
      pieces.length < fuel := by
    refine ⟨4 * (anchoredUnits pieces).length - 2, ?_, ?_⟩ <;>
      simp only [anchoredUnits, List.length_cons, List.length_append] <;> omega
  rw [Regex.parse?, scope, enough, choice?_anchoredUnits ordinary bound]
  rfl

end Glob

end StableTypes
