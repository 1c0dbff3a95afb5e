import StableTypes.Proofs.GlobMatching

/-!
# What a glob means

A glob is read from left to right. Two asterisks match a run of characters in one line, an asterisk
without a partner matches a run without dots, and every other character matches itself. Asterisks
pair from the left. The pattern matcher accepts a name exactly if the glob matches what stands in it
before the type arguments.

The matcher compares code units and a glob compares characters. A character beyond the basic plane
is a pair of surrogates: no character of a glob is one of them, and both kinds of runs take all of
them, so a run that ends between them might as well end behind them.
-/

namespace StableTypes

namespace Glob

open Regex

/-- A character that ends a line. -/
def EndsLine (c : Char) : Prop := c = '\n' ∨ c = '\r' ∨ c = '\u2028' ∨ c = '\u2029'

/-- A glob matches a text. -/
inductive Matches : (pattern text : List Char) → Prop
  /-- Nothing matches nothing. -/
  | nil : Matches [] []
  /-- Two asterisks match a run of characters that end no line. -/
  | anyRun {run pattern text : List Char} :
    (∀ c ∈ run, ¬EndsLine c) → Matches pattern text → Matches ('*' :: '*' :: pattern) (run ++ text)
  /-- An asterisk without another one behind it matches a run of characters that are no dots. -/
  | segmentRun {run pattern text : List Char} :
    pattern.head? ≠ some '*' → (∀ c ∈ run, c ≠ '.') → Matches pattern text →
      Matches ('*' :: pattern) (run ++ text)
  /-- Any other character matches itself. -/
  | itself {c : Char} {pattern text : List Char} :
    c ≠ '*' → Matches pattern text → Matches (c :: pattern) (c :: text)

/-- A letter or a digit of ASCII, a low line, a dot, a dollar sign or an asterisk. -/
def isGlobChar (c : Char) : Bool :=
  c.isAlphanum || c = '_' || c = '.' || c = '$' || c = '*'

/-! ## Units and characters -/

section Units

variable {piece : Piece} {pieces : List Piece}

/-- Ordinary pieces do not tell units from the surrogates on apart: runs take them all and other
pieces none. -/
theorem Piece.IsOrdinary.takes_high (ordinary : piece.IsOrdinary) {unit : Nat}
    (high : 0xD800 ≤ unit) : piece.takes unit = piece.repeats := by
  cases ordinary with
  | anyRun =>
    simp [Piece.takes, Piece.repeats, isLineEnd, holds, lineEndRanges]
    omega
  | segmentRun =>
    simp [Piece.takes, Piece.repeats]
    omega
  | itself escapes =>
    rcases escapes with rfl | rfl
    · simp [Piece.takes, Piece.repeats]
      omega
    · simp [Piece.takes, Piece.repeats]
      omega
  | plain word =>
    have ranges := isWord_iff.mp word
    simp [Piece.takes, Piece.repeats]
    omega

/-- A run takes the first unit of a text or ends before it. -/
theorem admitsAll_run_cons (repeats : piece.repeats = true) (unit : Nat) (text : List Nat) :
    AdmitsAll (piece :: pieces) (unit :: text) ↔
      AdmitsAll pieces (unit :: text) ∨
        (piece.takes unit = true ∧ AdmitsAll (piece :: pieces) text) := by
  constructor
  · rintro ⟨word, rest, split, admits, others⟩
    cases word with
    | nil =>
      refine .inl ?_
      rwa [split]
    | cons first word =>
      obtain ⟨rfl, rfl⟩ : unit = first ∧ text = word ++ rest := by simpa using split
      obtain ⟨takes, all⟩ := List.forall_mem_cons.mp admits.1
      exact .inr ⟨takes, word, rest, rfl, ⟨all, by simp [repeats]⟩, others⟩
  · rintro (others | ⟨takes, word, rest, rfl, admits, others⟩)
    · exact ⟨[], unit :: text, rfl, ⟨by simp, by simp [repeats]⟩, others⟩
    · exact ⟨unit :: word, rest, rfl,
        ⟨List.forall_mem_cons.mpr ⟨takes, admits.1⟩, by simp [repeats]⟩, others⟩

/-- A piece of one unit takes the first unit of a text. -/
theorem admitsAll_single_cons (single : piece.repeats = false) (unit : Nat) (text : List Nat) :
    AdmitsAll (piece :: pieces) (unit :: text) ↔
      piece.takes unit = true ∧ AdmitsAll pieces text := by
  constructor
  · rintro ⟨word, rest, split, ⟨all, length⟩, others⟩
    obtain ⟨first, rfl⟩ := List.length_eq_one_iff.mp (length single)
    obtain ⟨rfl, rfl⟩ : unit = first ∧ text = rest := by simpa using split
    exact ⟨all unit (.head _), others⟩
  · rintro ⟨takes, others⟩
    exact ⟨[unit], text, rfl, ⟨by simpa using takes, fun _ => rfl⟩, others⟩

/-- What pieces admit behind a unit depends on what they and their tails admit behind it. -/
theorem admitsAll_cons_congr {first second : List Nat}
    (same : ∀ pieces : List Piece, (∀ piece ∈ pieces, piece.IsOrdinary) →
      (AdmitsAll pieces first ↔ AdmitsAll pieces second))
    (ordinary : ∀ piece ∈ pieces, piece.IsOrdinary) (unit : Nat) :
    AdmitsAll pieces (unit :: first) ↔ AdmitsAll pieces (unit :: second) := by
  induction pieces with
  | nil => simp [AdmitsAll]
  | cons piece pieces ih =>
    obtain ⟨-, others⟩ := List.forall_mem_cons.mp ordinary
    cases kind : piece.repeats with
    | true => rw [admitsAll_run_cons kind, admitsAll_run_cons kind, ih others, same _ ordinary]
    | false => rw [admitsAll_single_cons kind, admitsAll_single_cons kind, same _ others]

/-- Units from the surrogates on can stand for each other. -/
theorem admitsAll_high_exchange (ordinary : ∀ piece ∈ pieces, piece.IsOrdinary)
    {first second : Nat} (firstHigh : 0xD800 ≤ first) (secondHigh : 0xD800 ≤ second)
    (text : List Nat) : AdmitsAll pieces (first :: text) ↔ AdmitsAll pieces (second :: text) := by
  induction pieces with
  | nil => simp [AdmitsAll]
  | cons piece pieces ih =>
    obtain ⟨head, others⟩ := List.forall_mem_cons.mp ordinary
    have takes : piece.takes first = piece.takes second :=
      (head.takes_high firstHigh).trans (head.takes_high secondHigh).symm
    cases kind : piece.repeats with
    | true => rw [admitsAll_run_cons kind, admitsAll_run_cons kind, ih others, takes]
    | false => rw [admitsAll_single_cons kind, admitsAll_single_cons kind, takes]

/-- Two units from the surrogates on can stand for one of them. -/
theorem admitsAll_high_double (ordinary : ∀ piece ∈ pieces, piece.IsOrdinary)
    {first second : Nat} (firstHigh : 0xD800 ≤ first) (secondHigh : 0xD800 ≤ second)
    (text : List Nat) :
    AdmitsAll pieces (first :: second :: text) ↔ AdmitsAll pieces (second :: text) := by
  induction pieces with
  | nil => simp [AdmitsAll]
  | cons piece pieces ih =>
    obtain ⟨head, others⟩ := List.forall_mem_cons.mp ordinary
    cases kind : piece.repeats with
    | true =>
      have takes : piece.takes first = true := (head.takes_high firstHigh).trans kind
      rw [admitsAll_run_cons kind, ih others, admitsAll_run_cons kind, takes]
      simp only [true_and, or_self_left]
    | false =>
      have refused : ∀ {unit}, 0xD800 ≤ unit → piece.takes unit = false := fun high =>
        (head.takes_high high).trans kind
      simp [admitsAll_single_cons kind, refused firstHigh, refused secondHigh]

/-- Ordinary pieces admit the code units of a text exactly if they admit its code points. -/
theorem admitsAll_units_iff (ordinary : ∀ piece ∈ pieces, piece.IsOrdinary) (text : List Char) :
    AdmitsAll pieces (text.flatMap Text.unitsOf) ↔ AdmitsAll pieces (text.map Char.toNat) := by
  induction text generalizing pieces with
  | nil => rfl
  | cons c text ih =>
    rw [List.flatMap_cons, List.map_cons,
      ← admitsAll_cons_congr (fun _ ordinary => ih ordinary) ordinary]
    by_cases small : c.toNat < 0x10000
    · simp [Text.unitsOf, small]
    · simp only [Text.unitsOf, small, if_false, List.cons_append, List.nil_append]
      exact (admitsAll_high_double ordinary (by omega) (by omega) _).trans
        (admitsAll_high_exchange ordinary (by omega) (by omega) _)

end Units

/-! ## Globs and their pieces -/

/-- The characters of globs are word characters, dots, dollar signs and asterisks. -/
theorem isGlobChar_iff {c : Char} :
    isGlobChar c = true ↔ isWord c.toNat = true ∨ c = '.' ∨ c = '$' ∨ c = '*' := by
  have low : c = '_' ↔ c.toNat = 0x5F := Char.toNat_inj.symm
  have letters : c.isAlphanum = true ↔ (0x41 ≤ c.toNat ∧ c.toNat ≤ 0x5A) ∨
      (0x61 ≤ c.toNat ∧ c.toNat ≤ 0x7A) ∨ (0x30 ≤ c.toNat ∧ c.toNat ≤ 0x39) := by
    unfold Char.isAlphanum Char.isAlpha Char.isUpper Char.isLower Char.isDigit
    simp [UInt32.le_iff_toNat_le, or_assoc]
  simp only [isGlobChar, Bool.or_eq_true, decide_eq_true_eq, isWord_iff, letters, low]
  grind

/-- The characters of a glob have ordinary pieces. -/
theorem isOrdinary_pieceOf {c : Char} (allowed : isGlobChar c = true) (other : c ≠ '*') :
    (pieceOf c).IsOrdinary := by
  by_cases escapes : c = '.' ∨ c = '$'
  · rw [pieceOf, if_pos escapes]
    exact .itself escapes
  · have word : isWord c.toNat = true := by
      rcases isGlobChar_iff.mp allowed with word | dot | dollar | star
      · exact word
      · exact absurd (.inl dot) escapes
      · exact absurd (.inr dollar) escapes
      · exact absurd star other
    have notNull : c ≠ '\x00' := by
      rintro rfl
      exact absurd word (by decide)
    rw [pieceOf, if_neg escapes, if_neg notNull]
    exact .plain word

/-- A glob of the characters of globs has ordinary pieces. -/
theorem isOrdinary_pieces {pattern : List Char} (allowed : ∀ c ∈ pattern, isGlobChar c = true) :
    ∀ piece ∈ pieces pattern, piece.IsOrdinary := by
  induction pattern using pieces.induct with
  | case1 => simp [pieces]
  | case2 rest ih =>
    rw [pieces]
    exact List.forall_mem_cons.mpr ⟨.anyRun, ih fun c among => allowed c (by simp [among])⟩
  | case3 rest alone ih =>
    rw [pieces]
    · exact List.forall_mem_cons.mpr ⟨.segmentRun, ih fun c among => allowed c (by simp [among])⟩
    · exact alone
  | case4 c rest _ other ih =>
    obtain ⟨first, others⟩ := List.forall_mem_cons.mp allowed
    rw [pieces]
    · exact List.forall_mem_cons.mpr ⟨isOrdinary_pieceOf first other, ih others⟩
    · exact fun _ star _ => other star
    · exact other

/-- The first word of a text of characters. -/
theorem admitsAll_map_cons {piece : Piece} {others : List Piece} {text : List Char} :
    AdmitsAll (piece :: others) (text.map Char.toNat) ↔
      ∃ run rest, text = run ++ rest ∧ piece.Admits (run.map Char.toNat) ∧
        AdmitsAll others (rest.map Char.toNat) := by
  constructor
  · rintro ⟨word, behind, split, admits, admitsAll⟩
    obtain ⟨run, rest, rfl, rfl, rfl⟩ := List.map_eq_append_iff.mp split
    exact ⟨run, rest, rfl, admits, admitsAll⟩
  · rintro ⟨run, rest, rfl, admits, admitsAll⟩
    exact ⟨_, _, List.map_append, admits, admitsAll⟩

/-- Runs of any characters end no line. -/
theorem anyRun_admits {run : List Char} :
    Piece.anyRun.Admits (run.map Char.toNat) ↔ ∀ c ∈ run, ¬EndsLine c := by
  have ends : ∀ c : Char, isLineEnd c.toNat = true ↔ EndsLine c := by
    intro c
    have points : EndsLine c ↔
        c.toNat = 0x0A ∨ c.toNat = 0x0D ∨ c.toNat = 0x2028 ∨ c.toNat = 0x2029 := by
      simp only [EndsLine, ← Char.toNat_inj]
      rfl
    rw [points]
    simp [isLineEnd, holds, lineEndRanges]
    omega
  simp [Piece.Admits, Piece.takes, Piece.repeats, ← ends]

/-- Runs inside a segment hold no dots. -/
theorem segmentRun_admits {run : List Char} :
    Piece.segmentRun.Admits (run.map Char.toNat) ↔ ∀ c ∈ run, c ≠ '.' := by
  have dot : ∀ c : Char, c = '.' ↔ c.toNat = 0x2E := fun _ => Char.toNat_inj.symm
  simp [Piece.Admits, Piece.takes, Piece.repeats, dot]

/-- The piece of a character admits the character. -/
theorem pieceOf_admits {c : Char} (notNull : c ≠ '\x00') {run : List Char} :
    (pieceOf c).Admits (run.map Char.toNat) ↔ run = [c] := by
  have takes : ∀ point, (pieceOf c).takes point = (point == c.toNat) := by
    intro point
    by_cases escapes : c = '.' ∨ c = '$' <;> simp [pieceOf, escapes, notNull, Piece.takes]
  have single : (pieceOf c).repeats = false := by
    by_cases escapes : c = '.' ∨ c = '$' <;> simp [pieceOf, escapes, notNull, Piece.repeats]
  constructor
  · rintro ⟨all, length⟩
    obtain ⟨d, rfl⟩ := List.length_eq_one_iff.mp ((List.length_map _).symm.trans (length single))
    have same : d.toNat = c.toNat := by simpa [takes] using all
    rw [Char.toNat_inj.mp same]
  · rintro rfl
    exact ⟨by simp [takes], fun _ => rfl⟩

/-- Two asterisks match what a run and the rest of the glob match. -/
theorem matches_pair_iff {pattern text : List Char} :
    Matches ('*' :: '*' :: pattern) text ↔
      ∃ run rest, text = run ++ rest ∧ (∀ c ∈ run, ¬EndsLine c) ∧ Matches pattern rest := by
  constructor
  · intro whole
    cases whole with
    | anyRun inLine others => exact ⟨_, _, rfl, inLine, others⟩
    | segmentRun alone _ _ => exact absurd rfl alone
    | itself other _ => exact absurd rfl other
  · rintro ⟨run, rest, rfl, inLine, others⟩
    exact .anyRun inLine others

/-- An asterisk alone matches what a run inside a segment and the rest of the glob match. -/
theorem matches_star_iff {pattern text : List Char} (alone : pattern.head? ≠ some '*') :
    Matches ('*' :: pattern) text ↔
      ∃ run rest, text = run ++ rest ∧ (∀ c ∈ run, c ≠ '.') ∧ Matches pattern rest := by
  constructor
  · intro whole
    cases whole with
    | anyRun _ _ => exact absurd rfl alone
    | segmentRun _ inSegment others => exact ⟨_, _, rfl, inSegment, others⟩
    | itself other _ => exact absurd rfl other
  · rintro ⟨run, rest, rfl, inSegment, others⟩
    exact .segmentRun alone inSegment others

/-- Any other character matches itself. -/
theorem matches_itself_iff {c : Char} {pattern text : List Char} (other : c ≠ '*') :
    Matches (c :: pattern) text ↔
      ∃ run rest, text = run ++ rest ∧ run = [c] ∧ Matches pattern rest := by
  constructor
  · intro whole
    cases whole with
    | anyRun _ _ => exact absurd rfl other
    | segmentRun _ _ _ => exact absurd rfl other
    | itself _ others => exact ⟨_, _, rfl, rfl, others⟩
  · rintro ⟨_, rest, rfl, rfl, others⟩
    exact .itself other others

/-- A glob matches the texts whose code points its pieces admit. -/
theorem matches_iff_admitsAll {pattern : List Char} (noNull : '\x00' ∉ pattern)
    (text : List Char) :
    Matches pattern text ↔ AdmitsAll (pieces pattern) (text.map Char.toNat) := by
  induction pattern using pieces.induct generalizing text with
  | case1 =>
    have empty : AdmitsAll (pieces []) (text.map Char.toNat) ↔ text = [] := List.map_eq_nil_iff
    rw [empty]
    constructor
    · intro whole
      cases whole
      rfl
    · rintro rfl
      exact .nil
  | case2 rest ih =>
    have others : '\x00' ∉ rest := fun among => noNull (by simp [among])
    rw [pieces, admitsAll_map_cons, matches_pair_iff]
    simp only [anyRun_admits, ih others]
  | case3 rest alone ih =>
    have others : '\x00' ∉ rest := fun among => noNull (by simp [among])
    have next : rest.head? ≠ some '*' := by
      intro first
      obtain ⟨more, rfl⟩ := List.head?_eq_some_iff.mp first
      exact alone more rfl
    rw [pieces, admitsAll_map_cons, matches_star_iff next]
    · simp only [segmentRun_admits, ih others]
    · exact alone
  | case4 c rest _ other ih =>
    obtain ⟨notNull, others⟩ : '\x00' ≠ c ∧ '\x00' ∉ rest := by simpa using noNull
    rw [pieces, admitsAll_map_cons, matches_itself_iff other]
    · simp only [pieceOf_admits notNull.symm, ih others]
    · exact fun _ star _ => other star
    · exact other

/-! ## Accepting names -/

/-- The text of the expression of a glob has the units of its pieces between anchors. -/
theorem units_sourceChars (pattern : String) :
    (sourceChars pattern).flatMap Text.unitsOf = anchoredUnits (pieces pattern.toList) := by
  rw [sourceChars, List.flatMap_append, List.flatMap_append, List.flatMap_assoc]
  rfl

/-- No character of a glob is blank. -/
theorem isBlank_of_isGlobChar {c : Char} (allowed : isGlobChar c = true) :
    Text.isBlank c = false := by
  have small : c.toNat < 0x7F ∧ 0x20 < c.toNat := by
    rcases isGlobChar_iff.mp allowed with word | rfl | rfl | rfl
    · have ranges := isWord_iff.mp word
      omega
    · decide
    · decide
    · decide
  simp [Text.isBlank, Text.isBlankPoint, Text.blankRanges]
  omega

/-- A text without blanks is trimmed. -/
theorem trim_of_noBlanks {text : String} (noBlanks : ∀ c ∈ text.toList, Text.isBlank c = false) :
    Text.trim text = text := by
  have kept : ∀ cs : List Char, (∀ c ∈ cs, Text.isBlank c = false) →
      cs.dropWhile Text.isBlank = cs := by
    intro cs none
    cases cs with
    | nil => rfl
    | cons c cs => exact List.dropWhile_cons_of_neg (by simp [none c (.head _)])
  rw [Text.trim, Text.trimChars, kept _ noBlanks, kept _ (by simpa using noBlanks),
    List.reverse_reverse, String.ofList_toList]

/-- A glob that is not empty is the pattern in use, with its expression. -/
theorem ofPatterns_glob {pattern : String} (nonempty : pattern ≠ "")
    (allowed : ∀ c ∈ pattern.toList, isGlobChar c = true) :
    PatternMatcher.ofPatterns [pattern] =
      ⟨[.expression pattern (anchored (pieces pattern.toList))]⟩ := by
  have trimmed : Text.trim pattern = pattern :=
    trim_of_noBlanks fun c among => isBlank_of_isGlobChar (allowed c among)
  have expression : expression? pattern = some (anchored (pieces pattern.toList)) := by
    rw [expression?, units_sourceChars, parse?_anchoredUnits (isOrdinary_pieces allowed)]
  simp [PatternMatcher.ofPatterns, PatternMatcher.usable, trimmed, nonempty,
    CompiledPattern.ofPattern, expression]

end Glob

/-- The pattern matcher writes a glob as the replacements of its characters make it, and accepts
a name exactly if the glob matches the part of the name before its type arguments. -/
theorem glob_accepts_what_it_matches (pattern : String) :
    Glob.sourceChars pattern =
        ['^', '(', '?', ':'] ++ Glob.rewritten pattern.toList ++ [')', '$'] ∧
      (pattern ≠ "" → (∀ c ∈ pattern.toList, Glob.isGlobChar c = true) →
        ∀ name : String, name ≠ "" →
          ((PatternMatcher.ofPatterns [pattern]).accepts name = true ↔
            Glob.Matches pattern.toList (name.toList.takeWhile (· ≠ '<')))) := by
  refine ⟨by rw [Glob.sourceChars, Glob.rewritten_eq_pieces], fun nonempty allowed name named => ?_⟩
  have noNull : '\x00' ∉ pattern.toList := fun among => absurd (allowed _ among) (by decide)
  have ordinary := Glob.isOrdinary_pieces allowed
  calc (PatternMatcher.ofPatterns [pattern]).accepts name = true
    _ ↔ (Glob.anchored (Glob.pieces pattern.toList)).test (Text.units (rawName name)) = true := by
      simp [Glob.ofPatterns_glob nonempty allowed, PatternMatcher.accepts, named,
        CompiledPattern.accepts, Glob.accepts]
    _ ↔ Glob.AdmitsAll (Glob.pieces pattern.toList) (Text.units (rawName name)) :=
      Glob.test_anchored_iff _ _
    _ ↔ Glob.AdmitsAll (Glob.pieces pattern.toList)
          ((name.toList.takeWhile (· ≠ '<')).map Char.toNat) := by
      rw [Text.units, rawName, String.toList_ofList, Glob.admitsAll_units_iff ordinary]
    _ ↔ Glob.Matches pattern.toList (name.toList.takeWhile (· ≠ '<')) :=
      (Glob.matches_iff_admitsAll noNull _).symm

/-- Of three asterisks the first two match across dots and the last one inside a segment. -/
theorem three_asterisks_accept :
    (PatternMatcher.ofPatterns ["a.***$_"]).accepts "a.b.c$_<T>" = true := by
  have matched : Glob.Matches "a.***$_".toList ("a.b.c$_<T>".toList.takeWhile (· ≠ '<')) := by
    have last : Glob.Matches ['$', '_'] ['$', '_'] :=
      .itself (by decide) (.itself (by decide) .nil)
    have inSegment : Glob.Matches ['*', '$', '_'] (['c'] ++ ['$', '_']) :=
      .segmentRun (by decide) (by simp) last
    have inLine : Glob.Matches ['*', '*', '*', '$', '_'] (['b', '.'] ++ ['c', '$', '_']) :=
      .anyRun (by simp [Glob.EndsLine]) inSegment
    exact .itself (by decide) (.itself (by decide) inLine)
  have allowed : ∀ c ∈ "a.***$_".toList, Glob.isGlobChar c = true :=
    List.all_eq_true.mp (by decide)
  exact ((glob_accepts_what_it_matches "a.***$_").2 (by decide) allowed "a.b.c$_<T>"
    (by decide)).mpr matched

end StableTypes
