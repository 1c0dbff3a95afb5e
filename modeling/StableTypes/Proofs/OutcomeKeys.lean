import StableTypes.Proofs.CombinedMembers
import StableTypes.Proofs.Degradation
import StableTypes.Proofs.NullableForms

/-!
# What a key tells apart

Combining drops an outcome whose key was seen. The key of an outcome that run time decides is
its type name and its reason with a colon in between, and both may hold colons themselves, so
two such outcomes have one key if a colon is shifted from the reason of one into the name of the
other. All other outcomes are told apart by their keys. So a combination holds what its outcomes
are flattened to, without what has the key of something before it; where no colon is shifted,
that is without what was there before.
-/

namespace StableTypes

/-- One name goes on where the other ends: with nothing, or with a colon and more. -/
theorem colon_after_name {name reason name' reason' : String} {more : List Char}
    (names : name'.toList = name.toList ++ more)
    (reasons : ':' :: reason.toList = more ++ ':' :: reason'.toList) :
    (name = name' ∧ reason = reason') ∨
      ∃ middle, name' = name ++ ":" ++ middle ∧ reason = middle ++ ":" ++ reason' := by
  cases more with
  | nil =>
    rw [List.append_nil] at names
    rw [List.nil_append, List.cons.injEq] at reasons
    exact .inl ⟨String.toList_inj.mp names.symm, String.toList_inj.mp reasons.2⟩
  | cons colon middle =>
    rw [List.cons_append, List.cons.injEq] at reasons
    obtain ⟨rfl, reasons⟩ := reasons
    refine .inr ⟨String.ofList middle, String.toList_inj.mp ?_, String.toList_inj.mp ?_⟩
    · simp [names]
    · simp [reasons]

/-- A text with a colon in it is split at this colon or at another one. -/
theorem append_colon_eq_iff {name reason name' reason' : String} :
    name ++ ":" ++ reason = name' ++ ":" ++ reason' ↔
      (name = name' ∧ reason = reason') ∨
      (∃ middle, name' = name ++ ":" ++ middle ∧ reason = middle ++ ":" ++ reason') ∨
      ∃ middle, name = name' ++ ":" ++ middle ∧ reason' = middle ++ ":" ++ reason := by
  constructor
  · intro same
    have letters : name.toList ++ ':' :: reason.toList = name'.toList ++ ':' :: reason'.toList := by
      simpa using congrArg String.toList same
    rcases List.append_eq_append_iff.mp letters with ⟨more, names, reasons⟩ | ⟨more, names, reasons⟩
    · rcases colon_after_name names reasons with equal | shifted
      · exact .inl equal
      · exact .inr (.inl shifted)
    · rcases colon_after_name names reasons with ⟨rfl, rfl⟩ | shifted
      · exact .inl ⟨rfl, rfl⟩
      · exact .inr (.inr shifted)
  · rintro (⟨rfl, rfl⟩ | ⟨middle, rfl, rfl⟩ | ⟨middle, rfl, rfl⟩)
    · rfl
    · simp only [String.append_assoc]
    · simp only [String.append_assoc]

namespace Classification

/-- The second outcome has in its type name what the first one has in its reason before a colon. -/
inductive ShiftsColon : Classification → Classification → Prop
  /-- The colon that ends the name of the first outcome is not the one that ends that of the
  second. -/
  | shift (name middle reason : String) :
      ShiftsColon (.runtime name (middle ++ ":" ++ reason))
        (.runtime (name ++ ":" ++ middle) reason)

/-- Two outcomes are the same, or only a colon tells them apart. -/
def SharesKey (outcome other : Classification) : Prop :=
  outcome = other ∨ outcome.ShiftsColon other ∨ other.ShiftsColon outcome

/-- Outcomes that run time decides have one key exactly if a colon at most tells them apart. -/
theorem key_runtime_eq_iff {name reason name' reason' : String} :
    (runtime name reason).key = (runtime name' reason').key ↔
      (runtime name reason).SharesKey (.runtime name' reason') := by
  have joined : (runtime name reason).key = (runtime name' reason').key ↔
      name ++ ":" ++ reason = name' ++ ":" ++ reason' := by
    simp only [key, String.append_assoc, String.append_right_inj]
  rw [joined, append_colon_eq_iff]
  constructor
  · rintro (⟨rfl, rfl⟩ | ⟨middle, rfl, rfl⟩ | ⟨middle, rfl, rfl⟩)
    · exact .inl rfl
    · exact .inr (.inl (.shift ..))
    · exact .inr (.inr (.shift ..))
  · rintro (same | shifts | shifts)
    · cases same
      exact .inl ⟨rfl, rfl⟩
    · cases shifts with
      | shift name middle reason => exact .inr (.inl ⟨middle, rfl, rfl⟩)
    · cases shifts with
      | shift name middle reason => exact .inr (.inr ⟨middle, rfl, rfl⟩)

/-- Sharing a key is mutual. -/
theorem SharesKey.symm {outcome other : Classification} (shares : outcome.SharesKey other) :
    other.SharesKey outcome := by
  rcases shares with same | shifts | shifts
  · exact .inl same.symm
  · exact .inr (.inr shifts)
  · exact .inr (.inl shifts)

/-- An outcome that is not left to run time is told from all others by its key. -/
theorem sharesKey_iff_of_decided {outcome other : Classification}
    (decided : ∀ name reason, outcome ≠ .runtime name reason)
    (single : outcome.isCombined = false) (single' : other.isCombined = false) :
    outcome.key = other.key ↔ outcome.SharesKey other := by
  constructor
  · intro same
    refine .inl ?_
    -- The keys of different kinds begin with different letters.
    replace same := congrArg String.toList same
    cases outcome <;> cases other <;> simp_all [key, isCombined] <;>
      exact String.toList_inj.mp same
  · rintro (rfl | shifts | shifts)
    · rfl
    · cases shifts
      exact absurd rfl (decided _ _)
    · cases shifts
      exact absurd rfl (decided _ _)

/-- Outcomes that are not combined have one key exactly if a colon at most tells them apart. -/
theorem key_eq_iff {outcome other : Classification} (single : outcome.isCombined = false)
    (single' : other.isCombined = false) :
    outcome.key = other.key ↔ outcome.SharesKey other := by
  by_cases decided : ∀ name reason, outcome ≠ .runtime name reason
  · exact sharesKey_iff_of_decided decided single single'
  · by_cases decided' : ∀ name reason, other ≠ .runtime name reason
    · have swapped := sharesKey_iff_of_decided decided' single' single
      exact ⟨fun same => (swapped.mp same.symm).symm, fun shares => (swapped.mpr shares.symm).symm⟩
    · push Not at decided decided'
      obtain ⟨name, reason, rfl⟩ := decided
      obtain ⟨name', reason', rfl⟩ := decided'
      exact key_runtime_eq_iff

/-- The second list is the first one with every combined outcome replaced by its members, in their
place. -/
inductive FlattensTo : List Classification → List Classification → Prop
  /-- Nothing is left. -/
  | nil : FlattensTo [] []
  /-- An outcome that is not combined stays. -/
  | single {outcome : Classification} {rest flat : List Classification} :
      outcome.isCombined = false → FlattensTo rest flat →
      FlattensTo (outcome :: rest) (outcome :: flat)
  /-- The members of a combined outcome take its place. -/
  | nested {members rest flat : List Classification} : FlattensTo (members ++ rest) flat →
      FlattensTo (.combined members :: rest) flat

mutual

/-- An outcome at the head of a list is flattened to its leaves. -/
theorem flattensTo_leaves : (outcome : Classification) → {rest flat : List Classification} →
    FlattensTo rest flat → FlattensTo (outcome :: rest) (outcome.leaves ++ flat)
  | .stable _, _, _, onward => .single rfl onward
  | .unstable _, _, _, onward => .single rfl onward
  | .runtime .., _, _, onward => .single rfl onward
  | .parameter _, _, _, onward => .single rfl onward
  | .unknown _, _, _, onward => .single rfl onward
  | .combined members, _, _, onward => .nested (flattensTo_allLeaves members onward)
termination_by structural outcome => outcome

/-- The beginning of a list is flattened to its leaves. -/
theorem flattensTo_allLeaves : (outcomes : List Classification) →
    {rest flat : List Classification} → FlattensTo rest flat →
    FlattensTo (outcomes ++ rest) (allLeaves outcomes ++ flat)
  | [], _, _, onward => onward
  | outcome :: outcomes, rest, flat, onward => by
    rw [List.cons_append, allLeaves, List.append_assoc]
    exact flattensTo_leaves outcome (flattensTo_allLeaves outcomes onward)
termination_by structural outcomes => outcomes

end

/-- A list is flattened to its leaves and to nothing else. -/
theorem flattensTo_iff {outcomes flat : List Classification} :
    FlattensTo outcomes flat ↔ flat = allLeaves outcomes := by
  constructor
  · intro flattens
    induction flattens with
    | nil => rfl
    | single single _ ih =>
      rw [allLeaves, leaves_of_not_combined single, ih]
      rfl
    | nested _ ih => rw [ih, allLeaves_append, allLeaves, leaves]
  · rintro rfl
    have flattens := flattensTo_allLeaves outcomes .nil
    rwa [List.append_nil, List.append_nil] at flattens

/-- The last list is the one in the middle without what repeats an outcome before it: an earlier one
of that list, or one of the first list. -/
inductive FirstsOf (repeats : Classification → Classification → Prop) :
    List Classification → List Classification → List Classification → Prop
  /-- Nothing is left. -/
  | nil {before : List Classification} : FirstsOf repeats before [] []
  /-- What repeats an outcome before it is dropped. -/
  | drop {before rest kept : List Classification} {outcome : Classification} :
      (∃ earlier ∈ before, repeats earlier outcome) →
      FirstsOf repeats (before ++ [outcome]) rest kept →
      FirstsOf repeats before (outcome :: rest) kept
  /-- What repeats nothing is kept. -/
  | keep {before rest kept : List Classification} {outcome : Classification} :
      ¬ (∃ earlier ∈ before, repeats earlier outcome) →
      FirstsOf repeats (before ++ [outcome]) rest kept →
      FirstsOf repeats before (outcome :: rest) (outcome :: kept)

/-- Dropping the keys that were seen drops what repeats, where having one key is repeating. -/
theorem firstsOf_distinctFrom {repeats : Classification → Classification → Prop}
    {before rest : List Classification} {seen : List String}
    (agrees : ∀ earlier ∈ before ++ rest, ∀ outcome ∈ before ++ rest,
      (earlier.key = outcome.key ↔ repeats earlier outcome))
    (saw : ∀ key, key ∈ seen ↔ key ∈ before.map Classification.key) :
    FirstsOf repeats before rest (distinctFrom seen rest) := by
  induction rest generalizing before seen with
  | nil => exact .nil
  | cons outcome rest ih =>
    have there : outcome.key ∈ seen ↔ ∃ earlier ∈ before, repeats earlier outcome := by
      rw [saw, List.mem_map]
      refine exists_congr fun earlier => and_congr_right fun member => ?_
      exact agrees earlier (by simp [member]) outcome (by simp)
    have onward := agrees
    rw [← List.singleton_append, ← List.append_assoc] at onward
    rw [distinctFrom]
    by_cases repeated : ∃ earlier ∈ before, repeats earlier outcome
    · rw [if_pos (there.mpr repeated)]
      refine .drop repeated (ih onward fun key => ?_)
      have known := there.mpr repeated
      rw [saw] at known
      rw [saw, List.map_append, List.mem_append]
      refine ⟨.inl, ?_⟩
      rintro (member | last)
      · exact member
      · rw [List.map_singleton, List.mem_singleton] at last
        exact last ▸ known
    · rw [if_neg (there.not.mpr repeated)]
      refine .keep repeated (ih onward fun key => ?_)
      rw [List.mem_cons, saw, List.map_append, List.mem_append, List.map_singleton,
        List.mem_singleton]
      exact or_comm

/-- Two outcomes that are not combined have one key exactly if they are the same or only a colon
tells them apart. A combination is what its outcomes are flattened to, in order, without what shares
the key of something before it; where no outcome has a colon shifted from another, exactly that is
left out which was there before. -/
theorem combining_drops_shared_keys (outcomes : List Classification) :
    (∀ outcome other : Classification, outcome.isCombined = false → other.isCombined = false →
      (outcome.key = other.key ↔ outcome.SharesKey other)) ∧
    ∃ flat kept, FlattensTo outcomes flat ∧ combine outcomes = .combined kept ∧
      FirstsOf SharesKey [] flat kept ∧
      ((∀ outcome ∈ flat, ∀ other ∈ flat, ¬ outcome.ShiftsColon other) →
        FirstsOf (· = ·) [] flat kept) := by
  refine ⟨fun outcome other single single' => key_eq_iff single single', ?_⟩
  have plain := allLeaves_not_combined outcomes
  refine ⟨allLeaves outcomes, _, flattensTo_iff.mpr rfl, combine_eq outcomes, ?_, fun apart => ?_⟩
  · refine firstsOf_distinctFrom (fun earlier there outcome member => ?_) fun key => by simp
    exact key_eq_iff (plain earlier there) (plain outcome member)
  · refine firstsOf_distinctFrom (fun earlier there outcome member => ?_) fun key => by simp
    rw [key_eq_iff (plain earlier there) (plain outcome member)]
    refine ⟨?_, .inl⟩
    rintro (same | shifts | shifts)
    · exact same
    · exact absurd shifts (apart earlier there outcome member)
    · exact absurd shifts (apart outcome member earlier there)

/-- A shape that could vary, twice, and a type parameter between: once in a combined outcome. -/
def shapes : List Classification :=
  [.runtime "Shape" Reason.interface,
    .combined [.parameter "T", .runtime "Shape" Reason.interface]]

/-- The shape is kept once, and the parameter is told from it by its key. -/
theorem shape_is_kept_once :
    ((runtime "Shape" Reason.interface).key = (parameter "T").key ↔
      (runtime "Shape" Reason.interface).SharesKey (parameter "T")) ∧
    ∃ flat kept, FlattensTo shapes flat ∧ combine shapes = .combined kept ∧
      FirstsOf (· = ·) [] flat kept := by
  obtain ⟨keys, flat, kept, flattens, combined, -, exactly⟩ := combining_drops_shared_keys shapes
  refine ⟨keys _ _ rfl rfl, flat, kept, flattens, combined, exactly ?_⟩
  rw [flattensTo_iff.mp flattens]
  rintro outcome there other member ⟨name, middle, reason⟩
  -- The name of the second outcome would have a colon in it.
  have equal : name ++ ":" ++ middle = "Shape" ∧ reason = Reason.interface := by
    simpa [shapes, allLeaves, leaves] using member
  have letters := congrArg (':' ∈ ·.toList) equal.1
  simp at letters

/-- A store that was not found, and one whose name ends in what went wrong with the other. -/
def lookups : List Classification :=
  [.runtime "Store" "disk:gone", .runtime "Store:disk" "gone"]

end Classification

/-- A pair of stores, none of which is declared. -/
def Snapshot.pair : Snapshot where
  declarations := [
    { DeclarationShape.finalClass "StorePair" with
      properties := [⟨"first", .nominal "Store" none {}, false⟩,
        ⟨"second", .nominal "Store:analysis failed: disk" none {}, false⟩] }]
  aliases := []
  callables := []

/-- The pair, where looking up either store fails. -/
def Judge.ofPair : Judge :=
  (ofSnapshot .pair default (.ofOptions {})).failingAt
    [("Store", .error "disk:analysis failed: gone"), ("Store:analysis failed: disk", .error "gone")]
    []

open Classification in
/-- Two different outcomes have one key, and combining them drops the second one. So the reason that
a pair of stores is given leaves out what went wrong with the second store. -/
theorem combining_drops_a_reason :
    ((runtime "Store" "disk:gone").key = (runtime "Store:disk" "gone").key ∧
      runtime "Store" "disk:gone" ≠ runtime "Store:disk" "gone") ∧
    (¬ ∃ flat kept, FlattensTo lookups flat ∧ combine lookups = .combined kept ∧
      FirstsOf (· = ·) [] flat kept) ∧
    Judge.ofPair.freshReason (.ofClass "Store:analysis failed: disk") =
      .ok "analysis failed: gone" ∧
    Judge.ofPair.freshReason (.ofClass "StorePair") =
      .ok "analysis failed: disk:analysis failed: gone" := by
  have apart : runtime "Store" "disk:gone" ≠ runtime "Store:disk" "gone" := by simp
  refine ⟨⟨rfl, apart⟩, ?_, ?_, ?_⟩
  · rintro ⟨flat, kept, flattens, combined, firsts⟩
    obtain rfl : flat = lookups := flattensTo_iff.mp flattens
    obtain rfl : [runtime "Store" "disk:gone"] = kept := Classification.combined.inj combined
    cases firsts with
    | drop repeated _ =>
      obtain ⟨earlier, member, -⟩ := repeated
      cases member
    | keep _ rest =>
      cases rest with
      | drop repeated _ =>
        obtain ⟨earlier, member, same⟩ := repeated
        exact apart ((List.mem_singleton.mp member).symm.trans same)
  · decide +kernel
  · decide +kernel

end StableTypes
