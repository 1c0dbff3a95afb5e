import StableTypes.Proofs.CombinedLeaves

/-!
# Verdicts of combined outcomes

Combining flattens outcomes and drops those whose key was seen. Keys are texts, but
they begin with the kind of the outcome, so what is dropped has the verdict of what
is kept: a combination is stable if every outcome put into it is, and unstable if
some outcome put into it is.
-/

namespace StableTypes.Classification

/-- A list is stable if each of its members is. -/
theorem allStable_iff {members : List Classification} :
    allStable members = true ↔ ∀ member ∈ members, member.isStable = true := by
  induction members with
  | nil => simp [allStable]
  | cons member members ih => simp [allStable, ih]

/-- A list is unstable if some of its members is. -/
theorem anyUnstable_iff {members : List Classification} :
    anyUnstable members = true ↔ ∃ member ∈ members, member.isUnstable = true := by
  induction members with
  | nil => simp [anyUnstable]
  | cons member members ih => simp [anyUnstable, ih]

mutual

/-- A classification is stable if its leaves are. -/
theorem isStable_iff_leaves : (outcome : Classification) →
    (outcome.isStable = true ↔ ∀ leaf ∈ outcome.leaves, leaf.isStable = true)
  | .stable _ => by simp [leaves]
  | .unstable _ => by simp [leaves]
  | .runtime .. => by simp [leaves]
  | .parameter _ => by simp [leaves]
  | .unknown _ => by simp [leaves]
  | .combined members => by
    rw [isStable, leaves]
    exact allStable_iff_allLeaves members
termination_by structural outcome => outcome

/-- A list is stable if the leaves of its members are. -/
theorem allStable_iff_allLeaves : (members : List Classification) →
    (allStable members = true ↔ ∀ leaf ∈ allLeaves members, leaf.isStable = true)
  | [] => by simp [allStable, allLeaves]
  | member :: members => by
    rw [allStable, allLeaves, Bool.and_eq_true, isStable_iff_leaves member,
      allStable_iff_allLeaves members]
    simp only [List.mem_append, or_imp, forall_and]
termination_by structural members => members

end

mutual

/-- A classification is unstable if one of its leaves is. -/
theorem isUnstable_iff_leaves : (outcome : Classification) →
    (outcome.isUnstable = true ↔ ∃ leaf ∈ outcome.leaves, leaf.isUnstable = true)
  | .stable _ => by simp [leaves]
  | .unstable _ => by simp [leaves]
  | .runtime .. => by simp [leaves]
  | .parameter _ => by simp [leaves]
  | .unknown _ => by simp [leaves]
  | .combined members => by
    rw [isUnstable, leaves]
    exact anyUnstable_iff_allLeaves members
termination_by structural outcome => outcome

/-- A list is unstable if a leaf of one of its members is. -/
theorem anyUnstable_iff_allLeaves : (members : List Classification) →
    (anyUnstable members = true ↔ ∃ leaf ∈ allLeaves members, leaf.isUnstable = true)
  | [] => by simp [anyUnstable, allLeaves]
  | member :: members => by
    rw [anyUnstable, allLeaves, Bool.or_eq_true, isUnstable_iff_leaves member,
      anyUnstable_iff_allLeaves members]
    simp only [List.mem_append, or_and_right, exists_or]
termination_by structural members => members

end

/-- A combined outcome. -/
def isCombined : Classification → Bool
  | .combined _ => true
  | _ => false

mutual

/-- The leaves of a classification are not combined. -/
theorem leaves_not_combined : (outcome : Classification) →
    ∀ leaf ∈ outcome.leaves, leaf.isCombined = false
  | .stable _ => by simp [leaves, isCombined]
  | .unstable _ => by simp [leaves, isCombined]
  | .runtime .. => by simp [leaves, isCombined]
  | .parameter _ => by simp [leaves, isCombined]
  | .unknown _ => by simp [leaves, isCombined]
  | .combined members => by
    rw [leaves]
    exact allLeaves_not_combined members
termination_by structural outcome => outcome

/-- The leaves of a list are not combined. -/
theorem allLeaves_not_combined : (members : List Classification) →
    ∀ leaf ∈ allLeaves members, leaf.isCombined = false
  | [] => by simp [allLeaves]
  | member :: members => by
    intro leaf h
    rw [allLeaves, List.mem_append] at h
    rcases h with first | rest
    · exact leaves_not_combined member leaf first
    · exact allLeaves_not_combined members leaf rest
termination_by structural members => members

end

/-- Outcomes with one key are of one kind: the key begins with its name. -/
theorem verdict_of_key_eq {first second : Classification} (h : first.isCombined = false)
    (h' : second.isCombined = false) (same : first.key = second.key) :
    first.isStable = second.isStable ∧ first.isUnstable = second.isUnstable := by
  replace same := congrArg String.toList same
  cases first <;> cases second <;> simp_all [key, isStable, isUnstable, isCombined]

/-- What is kept was there before. -/
theorem mem_of_mem_distinctFrom {seen : List String} {outcomes : List Classification}
    {outcome : Classification} (h : outcome ∈ distinctFrom seen outcomes) :
    outcome ∈ outcomes := by
  induction outcomes generalizing seen with
  | nil => exact h
  | cons member members ih =>
    rw [distinctFrom] at h
    split at h
    · exact .tail _ (ih h)
    · rcases List.mem_cons.mp h with rfl | rest
      · exact .head _
      · exact .tail _ (ih rest)

/-- Of each outcome there was, one with its key is kept, unless that key was seen. -/
theorem exists_mem_distinctFrom (seen : List String) {outcomes : List Classification}
    {outcome : Classification} (h : outcome ∈ outcomes) :
    outcome.key ∈ seen ∨ ∃ kept ∈ distinctFrom seen outcomes, kept.key = outcome.key := by
  induction outcomes generalizing seen with
  | nil => cases h
  | cons member members ih =>
    rw [distinctFrom]
    split
    next there =>
      rcases List.mem_cons.mp h with rfl | rest
      · exact .inl there
      · exact ih seen rest
    · rcases List.mem_cons.mp h with rfl | rest
      · exact .inr ⟨_, .head _, rfl⟩
      · rcases ih (member.key :: seen) rest with there | ⟨kept, mem, same⟩
        · rcases List.mem_cons.mp there with same | there
          · exact .inr ⟨member, .head _, same.symm⟩
          · exact .inl there
        · exact .inr ⟨kept, .tail _ mem, same⟩

/-- For each leaf of the outcomes put together, the combination has a member of the same
stability. -/
theorem exists_member_of_leaf {outcomes : List Classification} {leaf : Classification}
    (h : leaf ∈ allLeaves outcomes) :
    ∃ kept ∈ distinctFrom [] (allLeaves outcomes),
      kept.isStable = leaf.isStable ∧ kept.isUnstable = leaf.isUnstable := by
  rcases exists_mem_distinctFrom [] h with there | ⟨kept, mem, same⟩
  · cases there
  · have plain := allLeaves_not_combined outcomes
    exact ⟨kept, mem,
      verdict_of_key_eq (plain kept (mem_of_mem_distinctFrom mem)) (plain leaf h) same⟩

/-- A combination is stable exactly if all outcomes put into it are. -/
theorem isStable_combine_iff {outcomes : List Classification} :
    (combine outcomes).isStable = true ↔ ∀ outcome ∈ outcomes, outcome.isStable = true := by
  rw [← allStable_iff, allStable_iff_allLeaves outcomes, combine_eq, isStable, allStable_iff]
  constructor
  · intro fine leaf h
    obtain ⟨kept, mem, same, -⟩ := exists_member_of_leaf h
    exact same ▸ fine kept mem
  · exact fun fine kept mem => fine kept (mem_of_mem_distinctFrom mem)

/-- A combination is unstable exactly if some outcome put into it is. -/
theorem isUnstable_combine_iff {outcomes : List Classification} :
    (combine outcomes).isUnstable = true ↔ ∃ outcome ∈ outcomes, outcome.isUnstable = true := by
  rw [← anyUnstable_iff, anyUnstable_iff_allLeaves outcomes, combine_eq, isUnstable,
    anyUnstable_iff]
  constructor
  · exact fun ⟨kept, mem, bad⟩ => ⟨kept, mem_of_mem_distinctFrom mem, bad⟩
  · intro ⟨leaf, h, bad⟩
    obtain ⟨kept, mem, -, same⟩ := exists_member_of_leaf h
    exact ⟨kept, mem, same.trans bad⟩

end StableTypes.Classification
