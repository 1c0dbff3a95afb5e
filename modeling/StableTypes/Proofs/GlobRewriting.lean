import StableTypes.Pattern.Glob

/-!
# Globs by textual replacement

The text of the expression of a glob can also be made by replacing characters in the whole text
time and again. What one replacement writes is text for the next, which sees asterisks, dots and
backslashes that were not in the glob. It comes to the same as cutting the glob into pieces once:
dots and dollar signs are replaced before any are written, two asterisks are replaced by a character
of their own before one asterisk is, and what stands for them is written last.
-/

namespace StableTypes.Glob

/-- Every occurrence of a character is replaced by some text. -/
def replaceEach (c : Char) (replacement : List Char) (text : List Char) : List Char :=
  text.flatMap fun d => if d = c then replacement else [d]

/-- Every two occurrences of a character in a row are replaced by some text, from the left. -/
def replacePairs (c : Char) (replacement : List Char) : List Char → List Char
  | [] => []
  | [d] => [d]
  | d :: e :: rest =>
    if d = c ∧ e = c then replacement ++ replacePairs c replacement rest
    else d :: replacePairs c replacement (e :: rest)

/-- Dots and dollar signs with a backslash in front of them. -/
def escaped (text : List Char) : List Char :=
  replaceEach '$' ['\\', '$'] (replaceEach '.' ['\\', '.'] text)

/-- The text of the expression of a glob without its anchors, made by replacing dots, dollar signs,
two asterisks, one asterisk, and what two asterisks were replaced by. -/
def rewritten (pattern : List Char) : List Char :=
  replaceEach '\x00' ['.', '*']
    (replaceEach '*' ['[', '^', '.', ']', '*'] (replacePairs '*' ['\x00'] (escaped pattern)))

variable {c d : Char} {replacement rest : List Char}

@[simp] theorem replaceEach_cons_self :
    replaceEach c replacement (c :: rest) = replacement ++ replaceEach c replacement rest := by
  rw [replaceEach, List.flatMap_cons, if_pos rfl]
  rfl

theorem replaceEach_cons_of_ne (other : d ≠ c) :
    replaceEach c replacement (d :: rest) = d :: replaceEach c replacement rest := by
  rw [replaceEach, List.flatMap_cons, if_neg other]
  rfl

/-- A character that is not the first of a pair stays. -/
theorem replacePairs_cons_of_ne (alone : d ≠ c ∨ rest.head? ≠ some c) :
    replacePairs c replacement (d :: rest) = d :: replacePairs c replacement rest := by
  cases rest with
  | nil => rfl
  | cons e rest =>
    rw [replacePairs, if_neg]
    rintro ⟨rfl, rfl⟩
    rcases alone with other | other <;> exact other rfl

/-- Behind an asterisk alone there is no other one also once dots and dollar signs are replaced. -/
theorem head?_escaped (alone : rest.head? ≠ some '*') : (escaped rest).head? ≠ some '*' := by
  cases rest with
  | nil => exact alone
  | cons c rest =>
    by_cases dot : c = '.'
    · simp [escaped, dot, replaceEach_cons_of_ne]
    · by_cases dollar : c = '$'
      · simp [escaped, dollar, replaceEach_cons_of_ne]
      · simpa [escaped, replaceEach_cons_of_ne, dot, dollar] using alone

theorem escaped_cons_of_ne (noDot : c ≠ '.') (noDollar : c ≠ '$') :
    escaped (c :: rest) = c :: escaped rest := by
  rw [escaped, replaceEach_cons_of_ne noDot, replaceEach_cons_of_ne noDollar, escaped]

/-- A character that is no asterisk becomes its piece. -/
theorem rewritten_cons_of_ne (other : c ≠ '*') :
    rewritten (c :: rest) = (pieceOf c).source ++ rewritten rest := by
  by_cases dot : c = '.'
  · subst dot
    simp [rewritten, escaped, pieceOf, Piece.source, replaceEach_cons_of_ne,
      replacePairs_cons_of_ne]
  · by_cases dollar : c = '$'
    · subst dollar
      simp [rewritten, escaped, pieceOf, Piece.source, replaceEach_cons_of_ne,
        replacePairs_cons_of_ne]
    · rw [rewritten, escaped_cons_of_ne dot dollar, replacePairs_cons_of_ne (.inl other),
        replaceEach_cons_of_ne other, pieceOf, if_neg (by simp [dot, dollar])]
      by_cases null : c = '\x00'
      · rw [if_pos null, null, replaceEach_cons_self]
        rfl
      · rw [if_neg null, replaceEach_cons_of_ne null]
        rfl

/-- The replacements write the pieces of a glob. -/
theorem rewritten_eq_pieces (pattern : List Char) :
    rewritten pattern = (pieces pattern).flatMap Piece.source := by
  induction pattern using pieces.induct with
  | case1 => rfl
  | case2 rest ih =>
    rw [pieces, List.flatMap_cons, ← ih, rewritten, escaped_cons_of_ne (by decide) (by decide),
      escaped_cons_of_ne (by decide) (by decide), replacePairs, if_pos ⟨rfl, rfl⟩]
    rfl
  | case3 rest alone ih =>
    have next : rest.head? ≠ some '*' := by
      intro first
      obtain ⟨more, rfl⟩ : ∃ more, rest = '*' :: more := List.head?_eq_some_iff.mp first
      exact alone more rfl
    rw [pieces, List.flatMap_cons, ← ih, rewritten, escaped_cons_of_ne (by decide) (by decide),
      replacePairs_cons_of_ne (.inr (head?_escaped next)), replaceEach_cons_self]
    · rfl
    · exact alone
  | case4 c rest _ other ih =>
    rw [pieces, List.flatMap_cons, ← ih, rewritten_cons_of_ne other]
    · exact fun _ star _ => other star
    · exact other

end StableTypes.Glob
