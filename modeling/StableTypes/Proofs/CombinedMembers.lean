import StableTypes.Proofs.OutcomeLeaves
import StableTypes.Proofs.VerdictMonotonicity

/-!
# The members of a combination

A combination holds the leaves of the outcomes put into it, of each key the first. Which
keys were seen matters as a set only, and dropping repetitions of a part beforehand changes
nothing, so a combination inside a combination can be replaced by what it was made of. The
induction is always on the list of outcomes, with the keys seen left open.
-/

namespace StableTypes.Classification

section

variable {seen seen' : List String} {outcomes : List Classification}

/-- The keys that were seen matter as a set. -/
theorem distinctFrom_congr (same : ∀ key, key ∈ seen ↔ key ∈ seen')
    (outcomes : List Classification) :
    distinctFrom seen outcomes = distinctFrom seen' outcomes := by
  induction outcomes generalizing seen seen' with
  | nil => rfl
  | cons outcome outcomes ih =>
    have onward : ∀ key, key ∈ outcome.key :: seen ↔ key ∈ outcome.key :: seen' := by
      intro key
      rw [List.mem_cons, List.mem_cons, same]
    rw [distinctFrom, distinctFrom, ih same, ih onward]
    simp only [same]

/-- What comes later sees the keys of what came before. -/
theorem distinctFrom_append (seen : List String) (first rest : List Classification) :
    distinctFrom seen (first ++ rest) =
      distinctFrom seen first ++ distinctFrom (first.map key ++ seen) rest := by
  induction first generalizing seen with
  | nil => rfl
  | cons outcome first ih =>
    rw [List.cons_append, distinctFrom, distinctFrom]
    by_cases there : outcome.key ∈ seen
    · -- The key is in the set twice then, which does not matter.
      have same : ∀ key, key ∈ first.map Classification.key ++ seen ↔
          key ∈ (outcome :: first).map Classification.key ++ seen := by
        intro key
        simp only [List.mem_append, List.map_cons, List.mem_cons]
        grind
      rw [if_pos there, if_pos there, ih, distinctFrom_congr same]
    · have same : ∀ key, key ∈ first.map Classification.key ++ outcome.key :: seen ↔
          key ∈ (outcome :: first).map Classification.key ++ seen := by
        intro key
        simp only [List.mem_append, List.map_cons, List.mem_cons]
        grind
      rw [if_neg there, if_neg there, ih, distinctFrom_congr same, List.cons_append]

/-- Dropping repetitions beforehand, with fewer keys seen, drops nothing more. -/
theorem distinctFrom_distinctFrom (fewer : seen' ⊆ seen) (outcomes : List Classification) :
    distinctFrom seen (distinctFrom seen' outcomes) = distinctFrom seen outcomes := by
  induction outcomes generalizing seen seen' with
  | nil => rfl
  | cons outcome outcomes ih =>
    by_cases before : outcome.key ∈ seen'
    · rw [distinctFrom, if_pos before, ih fewer, distinctFrom, if_pos (fewer before)]
    · rw [distinctFrom, if_neg before]
      by_cases there : outcome.key ∈ seen
      · have fewer' : outcome.key :: seen' ⊆ seen := List.cons_subset.mpr ⟨there, fewer⟩
        rw [distinctFrom, if_pos there, distinctFrom, if_pos there, ih fewer']
      · have fewer' : outcome.key :: seen' ⊆ outcome.key :: seen :=
          List.cons_subset_cons outcome.key fewer
        rw [distinctFrom, if_neg there, distinctFrom, if_neg there, ih fewer']

/-- What is kept stays in order. -/
theorem distinctFrom_sublist (seen : List String) (outcomes : List Classification) :
    (distinctFrom seen outcomes).Sublist outcomes := by
  induction outcomes generalizing seen with
  | nil => exact .slnil
  | cons outcome outcomes ih =>
    rw [distinctFrom]
    split
    · exact .cons _ (ih seen)
    · exact .cons_cons _ (ih _)

/-- No key that was seen is kept. -/
theorem notMem_keys_distinctFrom {key : String} (there : key ∈ seen) :
    key ∉ (distinctFrom seen outcomes).map Classification.key := by
  induction outcomes generalizing seen with
  | nil => exact List.not_mem_nil
  | cons outcome outcomes ih =>
    rw [distinctFrom]
    split
    · exact ih there
    next fresh =>
      rw [List.map_cons, List.mem_cons, not_or]
      refine ⟨?_, ih (.tail _ there)⟩
      rintro rfl
      exact fresh there

/-- No key is kept twice. -/
theorem nodup_keys_distinctFrom (seen : List String) (outcomes : List Classification) :
    ((distinctFrom seen outcomes).map Classification.key).Nodup := by
  induction outcomes generalizing seen with
  | nil => exact List.nodup_nil
  | cons outcome outcomes ih =>
    rw [distinctFrom]
    split
    · exact ih seen
    · exact List.nodup_cons.mpr ⟨notMem_keys_distinctFrom (.head _), ih _⟩

/-- The first outcome is kept where no key was seen. -/
theorem distinctFrom_ne_nil (some : outcomes ≠ []) : distinctFrom [] outcomes ≠ [] := by
  cases outcomes with
  | nil => exact absurd rfl some
  | cons outcome outcomes =>
    rw [distinctFrom, if_neg List.not_mem_nil]
    exact List.cons_ne_nil _ _

/-- A key is among those seen or kept exactly if it is among those seen or given. -/
theorem mem_keys_distinctFrom {key : String} :
    key ∈ (distinctFrom seen outcomes).map Classification.key ∨ key ∈ seen ↔
      key ∈ outcomes.map Classification.key ∨ key ∈ seen := by
  constructor
  · rintro (kept | there)
    · obtain ⟨outcome, member, rfl⟩ := List.mem_map.mp kept
      exact .inl (List.mem_map_of_mem (mem_of_mem_distinctFrom member))
    · exact .inr there
  · rintro (given | there)
    · obtain ⟨outcome, member, rfl⟩ := List.mem_map.mp given
      rcases exists_mem_distinctFrom seen member with there | ⟨kept, member', same⟩
      · exact .inr there
      · exact .inl (same ▸ List.mem_map_of_mem member')
    · exact .inr there

end

/-- The leaves of a list that goes on are those of its parts. -/
theorem allLeaves_append (first rest : List Classification) :
    allLeaves (first ++ rest) = allLeaves first ++ allLeaves rest := by
  induction first with
  | nil => rfl
  | cons outcome first ih => rw [List.cons_append, allLeaves, allLeaves, ih, List.append_assoc]

/-- A list without combined outcomes is the list of its leaves. -/
theorem allLeaves_of_not_combined {outcomes : List Classification}
    (plain : ∀ outcome ∈ outcomes, outcome.isCombined = false) : allLeaves outcomes = outcomes := by
  induction outcomes with
  | nil => rfl
  | cons outcome outcomes ih =>
    have rest := ih fun other member => plain other (.tail _ member)
    rw [allLeaves, leaves_of_not_combined (plain outcome (.head _)), rest]
    rfl

/-- The members of a combination are not combined. -/
theorem members_not_combined (outcomes : List Classification) :
    ∀ member ∈ distinctFrom [] (allLeaves outcomes), member.isCombined = false :=
  fun member kept => allLeaves_not_combined outcomes member (mem_of_mem_distinctFrom kept)

/-- The leaves of a combination are its members. -/
theorem leaves_combine (outcomes : List Classification) :
    (combine outcomes).leaves = distinctFrom [] (allLeaves outcomes) := by
  rw [combine_eq, leaves, allLeaves_of_not_combined (members_not_combined outcomes)]

/-- A combination inside a combination can be replaced by what it was made of. -/
theorem combine_nested (before inside after : List Classification) :
    combine (before ++ [combine inside] ++ after) = combine (before ++ inside ++ after) := by
  have within : allLeaves [combine inside] = distinctFrom [] (allLeaves inside) := by
    rw [allLeaves, leaves_combine, allLeaves, List.append_nil]
  -- What comes after sees the same keys in both cases.
  have same : ∀ key,
      key ∈ (allLeaves before ++ distinctFrom [] (allLeaves inside)).map Classification.key ++ [] ↔
        key ∈ (allLeaves before ++ allLeaves inside).map Classification.key ++ [] := by
    intro key
    have kept : key ∈ (distinctFrom [] (allLeaves inside)).map Classification.key ∨ key ∈ [] ↔
        key ∈ (allLeaves inside).map Classification.key ∨ key ∈ [] := mem_keys_distinctFrom
    simp only [List.not_mem_nil, or_false] at kept
    rw [List.append_nil, List.append_nil, List.map_append, List.map_append, List.mem_append,
      List.mem_append, kept]
  rw [combine_eq (before ++ [combine inside] ++ after), combine_eq (before ++ inside ++ after),
    allLeaves_append, allLeaves_append, allLeaves_append, allLeaves_append, within,
    distinctFrom_append, distinctFrom_append, distinctFrom_append, distinctFrom_append,
    distinctFrom_distinctFrom (List.nil_subset _), distinctFrom_congr same]

/-- A combination of a single combination is that combination. -/
theorem combine_singleton (outcomes : List Classification) :
    combine [combine outcomes] = combine outcomes := by
  have nested := combine_nested [] outcomes []
  simpa using nested

/-- Flattening and dropping repetitions does not affect the verdict. -/
theorem verdict_combine (outcomes : List Classification) :
    (combine outcomes).verdict = (combined outcomes).verdict := by
  have stable : (combine outcomes).isStable = (combined outcomes).isStable := by
    rw [Bool.eq_iff_iff, isStable_combine_iff, isStable, allStable_iff]
  have unstable : (combine outcomes).isUnstable = (combined outcomes).isUnstable := by
    rw [Bool.eq_iff_iff, isUnstable_combine_iff, isUnstable, anyUnstable_iff]
  rw [verdict, verdict, stable, unstable]

/-- A combination is stable exactly if all outcomes put into it are, and unstable exactly if one of
them is, so its verdict is that of the outcomes as they were put into it. A combination among the
outcomes can be replaced by what it was made of, with the same members in the same order. No outcome
is both stable and unstable. -/
theorem combining_keeps_verdicts :
    (∀ outcomes : List Classification,
      ((combine outcomes).isStable = true ↔ ∀ outcome ∈ outcomes, outcome.isStable = true) ∧
      ((combine outcomes).isUnstable = true ↔ ∃ outcome ∈ outcomes, outcome.isUnstable = true) ∧
      (combine outcomes).verdict = (combined outcomes).verdict) ∧
    (∀ before inside after : List Classification,
      combine (before ++ [combine inside] ++ after) = combine (before ++ inside ++ after)) ∧
    (∀ outcomes : List Classification, combine [combine outcomes] = combine outcomes) ∧
    ∀ outcome : Classification, ¬ (outcome.isStable = true ∧ outcome.isUnstable = true) := by
  refine ⟨fun outcomes => ?_, combine_nested, combine_singleton, fun outcome both => ?_⟩
  · exact ⟨isStable_combine_iff, isUnstable_combine_iff, verdict_combine outcomes⟩
  · have calm := isUnstable_of_isStable both.1
    rw [both.2] at calm
    cases calm

end StableTypes.Classification
