import StableTypes.Proofs.AskedParts

/-!
# Classifications that no want of room cuts off

While no signature is refused for want of room, more room would change nothing: the same types
are visited, and they come to the same. That a classification is not cut off is read off the
record of its guard. The recorded run is set beside the one that keeps a record of its
questions, so what is true of the guard along the one is true of the visits of the other.
-/

namespace StableTypes

/-- The step does not refuse a signature for want of room. -/
def GuardEvent.Fits : GuardEvent → Prop
  | .enter _ entry _ => entry ≠ .tooDeep
  | .exit _ _ => True
  | .disorder _ => True

instance (event : GuardEvent) : Decidable event.Fits :=
  match event with
  | .enter _ entry _ => inferInstanceAs (Decidable (entry ≠ .tooDeep))
  | .exit _ _ => .isTrue trivial
  | .disorder _ => .isTrue trivial

namespace Judge

/-- No type that is visited from here on is refused for want of room. -/
def Uncut (judge : Judge) (visit : Visit) : Prop :=
  ∀ later, judge.LeadsTo visit later → later.type.signature ∈ later.active ∨ 0 < later.room

variable {judge : Judge} {visit : Visit} {part : TypeRef}

/-- What a visit leads to is not refused either. -/
theorem Uncut.of_leadsTo {later : Visit} (uncut : judge.Uncut visit)
    (leads : judge.LeadsTo visit later) : judge.Uncut later :=
  fun next rest => uncut next (leads.trans rest)

/-- The parts that a type asks about are not refused. -/
theorem Uncut.below (uncut : judge.Uncut visit) (opens : visit.Opens)
    (there : part ∈ judge.asked (judge.outcomeBelow visit) visit.type) :
    judge.Uncut (visit.below part) :=
  uncut.of_leadsTo (.single (.part opens there))

/-- A new type that is not refused is entered. -/
theorem Uncut.opens (uncut : judge.Uncut visit) (fresh : visit.type.signature ∉ visit.active) :
    visit.Opens :=
  ⟨fresh, (uncut visit .refl).resolve_left fresh⟩

/-- With more room a type that is not refused comes to the same. -/
theorem Uncut.outcomeAt_withMore (uncut : judge.Uncut visit) (extra : Nat) :
    judge.outcomeAt (visit.withMore extra) = judge.outcomeAt visit := by
  induction room : visit.room using Nat.strongRecOn generalizing visit with
  | ind room ih =>
    by_cases there : visit.type.signature ∈ visit.active
    · rw [outcomeAt, outcomeAt, outcomeWithin_of_mem there]
      exact outcomeWithin_of_mem there
    · have opens := uncut.opens there
      rw [outcomeAt_of_opens opens, outcomeAt_of_opens (opens.withMore extra)]
      refine ((judge.asked_spec (judge.outcomeBelow visit) _ visit.type).2 fun part asked => ?_).2
      rw [outcomeBelow, outcomeBelow, opens.below_withMore]
      exact (ih _ (room ▸ opens.room_below_lt) (uncut.below opens asked) rfl).symm

/-- With more room a type that is not refused asks about the same parts. -/
theorem Uncut.asked_withMore (uncut : judge.Uncut visit) (opens : visit.Opens) (extra : Nat) :
    judge.asked (judge.outcomeBelow (visit.withMore extra)) visit.type =
      judge.asked (judge.outcomeBelow visit) visit.type := by
  refine ((judge.asked_spec (judge.outcomeBelow visit) _ visit.type).2 fun part asked => ?_).1
  rw [outcomeBelow, outcomeBelow, opens.below_withMore]
  exact ((uncut.below opens asked).outcomeAt_withMore extra).symm

/-- With more room no other types are visited. -/
theorem Uncut.of_leadsTo_withMore (uncut : judge.Uncut visit) {extra : Nat} {later : Visit}
    (leads : judge.LeadsTo (visit.withMore extra) later) :
    ∃ before, judge.LeadsTo visit before ∧ later = before.withMore extra := by
  induction leads with
  | refl => exact ⟨visit, .refl, rfl⟩
  | tail _ step ih =>
    obtain ⟨before, leads, rfl⟩ := ih
    obtain ⟨⟨fresh, -⟩, there⟩ := step
    have uncut' := uncut.of_leadsTo leads
    have opens := uncut'.opens fresh
    refine ⟨_, leads.tail (.part opens ?_), opens.below_withMore⟩
    rwa [← uncut'.asked_withMore opens extra]

end Judge

namespace Recorded

variable {α β : Type}

/-- The two computations come to the same, the one on a guard that it puts back. If it refuses no
signature for want of room, the other one asks about good types only. -/
def Mirrors (guard : SignatureGuard) (good : TypeRef → Prop) (recorded : Recorded α)
    (asking : Asking α) : Prop :=
  ∀ events before, ∃ reached steps asked,
    recorded.runFrom guard events = (reached, guard, events ++ steps) ∧
    asking.run.run before = (reached, asked ++ before) ∧
    ((∀ event ∈ steps, event.Fits) → ∀ part ∈ asked, good part)

/-- Mirroring passes through a sequence. -/
theorem mirrors_bind {guard : SignatureGuard} {good : TypeRef → Prop} {first : Recorded α}
    {first' : Asking α} {next : α → Recorded β} {next' : α → Asking β}
    (mirrors : Mirrors guard good first first')
    (continued : ∀ value, Mirrors guard good (next value) (next' value)) :
    Mirrors guard good (first >>= next) (first' >>= next') := by
  intro events before
  obtain ⟨reached, steps, asked, run, run', fine⟩ := mirrors events before
  cases reached with
  | error fault =>
    refine ⟨.error fault, steps, asked, ?_, ?_, fine⟩
    · rw [runFrom_bind, run]
    · rw [run_bind_fault, run']
  | ok value =>
    obtain ⟨reached', steps', asked', again, again', fine'⟩ :=
      continued value (events ++ steps) (asked ++ before)
    refine ⟨reached', steps ++ steps', asked' ++ asked, ?_, ?_, fun fits part member => ?_⟩
    · rw [runFrom_bind, run, ← List.append_assoc]
      exact again
    · rw [run_bind_of_run run', again', List.append_assoc]
    · rcases List.mem_append.mp member with late | early
      · exact fine' (fun event there => fits event (List.mem_append_right _ there)) part late
      · exact fine (fun event there => fits event (List.mem_append_left _ there)) part early

/-- Mirroring is respected by every rule. -/
def mirroring (guard : SignatureGuard) (good : TypeRef → Prop) :
    FaultRelation Recorded Asking where
  rel := Mirrors guard good
  pure value events _ := ⟨.ok value, [], [], by rw [List.append_nil]; rfl, rfl, by simp⟩
  bind := mirrors_bind
  throw fault next _ events _ := ⟨.error fault, [], [], by rw [List.append_nil]; rfl, rfl, by simp⟩

end Recorded

namespace Judge

open Recorded

variable {judge : Judge}

/-- A type that cannot be entered leads to nothing else. -/
theorem eq_of_leadsTo_of_not_opens {visit later : Visit} (shut : ¬ visit.Opens)
    (leads : judge.LeadsTo visit later) : later = visit := by
  rcases leads.cases_head with same | ⟨_, ⟨opens, -⟩, -⟩
  · exact same.symm
  · exact absurd opens shut

/-- On the guard the classification comes to the outcome behind it. If it refuses no signature for
want of room, then no type that is visited is refused. -/
def UncutIfFits (judge : Judge) (guard : SignatureGuard) (room : Nat) (type : TypeRef) : Prop :=
  ∀ events, ∃ steps, runFrom (judge.classifyWithin room type) guard events =
      (.ok (judge.outcomeWithin room guard.active type), guard, events ++ steps) ∧
    ((∀ event ∈ steps, event.Fits) → judge.Uncut ⟨room, guard.active, type⟩)

/-- A type under classification is a cycle and leads to nothing else. -/
theorem uncutIfFits_of_mem {room : Nat} {guard : SignatureGuard} {type : TypeRef}
    (there : type.signature ∈ guard.active) : judge.UncutIfFits guard room type := by
  intro events
  have settles : Settles (fun _ => True) guard (judge.classifyWithin room type)
      (.ok (judge.outcomeWithin room guard.active type)) :=
    settles_classifyWithin_of_mem there trivial
  obtain ⟨steps, run, -⟩ := settles events
  refine ⟨steps, run, fun _ later leads => .inl ?_⟩
  rw [eq_of_leadsTo_of_not_opens (fun opens => opens.fresh there) leads]
  exact there

/-- Every classification does, by induction on the room. -/
theorem uncutIfFits {room : Nat} {guard : SignatureGuard} (left : guard.room = room)
    (type : TypeRef) : judge.UncutIfFits guard room type := by
  induction room generalizing guard type with
  | zero =>
    by_cases there : type.signature ∈ guard.active
    · exact uncutIfFits_of_mem there
    · intro events
      refine ⟨[.enter type.signature .tooDeep guard.depth], ?_, fun fits => ?_⟩
      · rw [classifyWithin, runFrom_guarded, SignatureGuard.enter_of_full there left,
          outcomeWithin_zero there]
        rfl
      · exact absurd rfl (fits _ (.head _))
  | succ room ih =>
    by_cases there : type.signature ∈ guard.active
    · exact uncutIfFits_of_mem there
    · intro events
      let visit : Visit := ⟨room + 1, guard.active, type⟩
      have parts (part : TypeRef) (_ : judge.HasPart type part) :
          Mirrors (guard.push type.signature) (fun part => judge.Uncut (visit.below part))
            (judge.classifyWithin room part) (Asking.ask (judge.outcomeBelow visit) part) := by
        intro events before
        obtain ⟨steps, run, fine⟩ := ih (SignatureGuard.room_push left) part events
        exact ⟨_, steps, [part], run, rfl, fun fits => List.forall_mem_singleton.mpr (fine fits)⟩
      obtain ⟨reached, steps, asked, run, run', fine⟩ := rel_typeOutcome (mirroring _ _) parts
        (events ++ [.enter type.signature .entered (guard.depth + 1)]) []
      have asks : judge.asked (judge.outcomeBelow visit) type = asked := by
        rw [Judge.asked, run', List.append_nil]
      have outcome : judge.outcomeWithin (room + 1) guard.active type =
          recovered type.signature reached := by
        have same := run_ask judge (judge.outcomeBelow visit) type []
        rw [run'] at same
        rw [outcomeWithin_succ there]
        exact congrArg (recovered type.signature) same.symm
      refine ⟨_, outcome ▸ runFrom_guarded_of_entered there (by omega) run,
        fun fits later leads => ?_⟩
      rcases leads.cases_head with rfl | ⟨_, ⟨-, part⟩, rest⟩
      · exact .inr (Nat.succ_pos room)
      · exact fine (fun event member => fits event (by simp [member])) _ (asks ▸ part) later rest

/-- Where the record of a classification has no refusal for want of room, no type that is visited is
refused. -/
theorem uncut_of_fits {guard : SignatureGuard} {type : TypeRef}
    (fits : ∀ event ∈ (judge.record type guard).2.2, event.Fits) :
    judge.Uncut ⟨guard.room, guard.active, type⟩ := by
  have every : judge.UncutIfFits guard guard.room type := uncutIfFits rfl type
  obtain ⟨steps, run, fine⟩ := every []
  have recorded : (judge.record type guard).2.2 = steps := by
    rw [record, run]
    rfl
  exact fine (recorded ▸ fits)

end Judge

end StableTypes
