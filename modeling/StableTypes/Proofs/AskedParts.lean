import StableTypes.Proofs.FaultingRun
import StableTypes.Proofs.RuledOutcome

/-!
# What a classification asks about

The rules stop where an answer decides, so it depends on the answers which parts of a type
they ask about. To find out, they are run with every question on record, and only the answers
on record matter to the outcome. A classification visits a type, the parts that it asks about,
and so on, each one signature deeper. Where two classifications are compared, it is enough to
compare them at their visits.
-/

namespace StableTypes

/-- A computation that keeps a record of the types that it asks about. -/
abbrev Asking := ExceptT Fault (StateM (List TypeRef))

namespace Asking

variable {α β : Type}

/-- Asks for the outcome of a type and puts the type on record. -/
def ask (outcome : TypeRef → Classification) (part : TypeRef) : Asking Classification := do
  modify (part :: ·)
  return outcome part

/-- The computation comes to the result, whatever is on record before. -/
def ComesTo (asking : Asking α) (result : Except Fault α) : Prop :=
  ∀ before, (asking.run.run before).1 = result

/-- Two computations one after the other come to what the two results come to. -/
theorem comesTo_bind {first : Asking α} {result : Except Fault α} {next : α → Asking β}
    {rest : α → Except Fault β} (comes : ComesTo first result)
    (continued : ∀ value, ComesTo (next value) (rest value)) :
    ComesTo (first >>= next) (result >>= rest) := by
  intro before
  have reached := comes before
  rw [run_bind_fault, ← reached]
  obtain ⟨result, after⟩ := first.run.run before
  cases result with
  | error fault => rfl
  | ok value => exact continued value after

/-- Coming to a result is respected by every rule. -/
def comingTo : FaultRelation Asking (Except Fault) where
  rel := ComesTo
  pure _ _ := rfl
  bind := comesTo_bind
  throw _ _ _ _ := rfl

/-- The first computation asks about allowed types only. Where all that it asks about is the same
for the other one, that one asks the same and comes to the same. -/
def Agrees (allowed same : TypeRef → Prop) (asking other : Asking α) : Prop :=
  ∀ before, ∃ reached asked, asking.run.run before = (reached, asked ++ before) ∧
    (∀ part ∈ asked, allowed part) ∧
    ((∀ part ∈ asked, same part) → other.run.run before = (reached, asked ++ before))

/-- Computations that agree may be continued by ones that agree. -/
theorem agrees_bind {allowed same : TypeRef → Prop} {first other : Asking α}
    {next other' : α → Asking β} (agrees : Agrees allowed same first other)
    (continued : ∀ value, Agrees allowed same (next value) (other' value)) :
    Agrees allowed same (first >>= next) (other >>= other') := by
  intro before
  obtain ⟨reached, asked, run, fine, told⟩ := agrees before
  cases reached with
  | error fault =>
    refine ⟨.error fault, asked, ?_, fine, fun known => ?_⟩
    · rw [run_bind_fault, run]
    · rw [run_bind_fault, told known]
  | ok value =>
    obtain ⟨reached', asked', run', fine', told'⟩ := continued value (asked ++ before)
    refine ⟨reached', asked' ++ asked, ?_, fun part member => ?_, fun known => ?_⟩
    · rw [run_bind_of_run run, run', List.append_assoc]
    · rcases List.mem_append.mp member with there | there
      · exact fine' part there
      · exact fine part there
    · have first := told fun part there => known part (List.mem_append_right _ there)
      have second := told' fun part there => known part (List.mem_append_left _ there)
      rw [run_bind_of_run first, second, List.append_assoc]

/-- Agreeing is respected by every rule. -/
def agreeing (allowed same : TypeRef → Prop) : FaultRelation Asking Asking where
  rel := Agrees allowed same
  pure value before := ⟨.ok value, [], rfl, by simp, fun _ => rfl⟩
  bind := agrees_bind
  throw fault next _ before := ⟨.error fault, [], rfl, by simp, fun _ => rfl⟩

end Asking

/-- A type that is judged. -/
structure Visit where
  /-- How many more signatures fit on the stack. -/
  room : Nat
  /-- The signatures that are entered. -/
  active : List String
  /-- The type. -/
  type : TypeRef

namespace Visit

/-- A type is judged with nothing entered. -/
def start (room : Nat) (type : TypeRef) : Visit := ⟨room, [], type⟩

/-- The visit of a part, with the signature of the type entered. -/
def below (visit : Visit) (part : TypeRef) : Visit :=
  ⟨visit.room - 1, visit.type.signature :: visit.active, part⟩

/-- The same visit where so many more signatures fit. -/
def withMore (visit : Visit) (extra : Nat) : Visit := { visit with room := visit.room + extra }

/-- The type can be entered: it is not under classification already, and there is room. -/
structure Opens (visit : Visit) : Prop where
  /-- The signature is not entered. -/
  fresh : visit.type.signature ∉ visit.active
  /-- One more signature fits. -/
  roomy : 0 < visit.room

variable {visit : Visit}

/-- A type that cannot be entered is a cycle, or there is no room for it. -/
theorem mem_or_full (shut : ¬ visit.Opens) :
    visit.type.signature ∈ visit.active ∨
      visit.type.signature ∉ visit.active ∧ visit.room = 0 := by
  by_cases there : visit.type.signature ∈ visit.active
  · exact .inl there
  · have full : ¬ 0 < visit.room := fun roomy => shut ⟨there, roomy⟩
    exact .inr ⟨there, by omega⟩

/-- A part is visited with less room. -/
theorem Opens.room_below_lt (opens : visit.Opens) {part : TypeRef} :
    (visit.below part).room < visit.room := Nat.sub_lt opens.roomy Nat.one_pos

/-- More room keeps a type open. -/
theorem Opens.withMore (opens : visit.Opens) (extra : Nat) : (visit.withMore extra).Opens where
  fresh := opens.fresh
  roomy := Nat.add_pos_left opens.roomy extra

/-- More room for a type that is entered is more room for its parts. -/
theorem Opens.below_withMore (opens : visit.Opens) {extra : Nat} {part : TypeRef} :
    (visit.withMore extra).below part = (visit.below part).withMore extra := by
  have roomy := opens.roomy
  simp only [below, Visit.withMore, Visit.mk.injEq, and_true]
  omega

end Visit

namespace Judge

/-- The outcome of the type that is visited. -/
def outcomeAt (judge : Judge) (visit : Visit) : Classification :=
  judge.outcomeWithin visit.room visit.active visit.type

/-- The outcome of a part, where the type that is visited is entered. -/
def outcomeBelow (judge : Judge) (visit : Visit) (part : TypeRef) : Classification :=
  judge.outcomeAt (visit.below part)

/-- The types that the rules ask about while they judge a type, given the outcomes of the parts. -/
def asked (judge : Judge) (outcome : TypeRef → Classification) (type : TypeRef) : List TypeRef :=
  ((judge.typeOutcome (m := Asking) (Asking.ask outcome) type).run.run []).2

/-- One visit leads to the next: a type is entered, and the rules ask about a part. -/
inductive AsksFor (judge : Judge) : Visit → Visit → Prop
  | part {visit : Visit} {part : TypeRef} : visit.Opens →
      part ∈ judge.asked (judge.outcomeBelow visit) visit.type →
      AsksFor judge visit (visit.below part)

/-- From one visit questions lead to the other. -/
def LeadsTo (judge : Judge) : Visit → Visit → Prop := Relation.ReflTransGen judge.AsksFor

/-- A visit that is made while a type is classified with nothing entered. -/
def FreshVisit (judge : Judge) (type : TypeRef) (visit : Visit) : Prop :=
  judge.LeadsTo (.start judge.freshGuard.room type) visit

variable {judge : Judge} {outcome other : TypeRef → Classification} {type : TypeRef} {visit : Visit}

/-- It makes no difference to the outcome whether the questions are put on record. -/
theorem run_ask (judge : Judge) (outcome : TypeRef → Classification) (type : TypeRef)
    (before : List TypeRef) :
    ((judge.typeOutcome (m := Asking) (Asking.ask outcome) type).run.run before).1 =
      judge.typeOutcome (m := Except Fault) (fun part => .ok (outcome part)) type :=
  rel_typeOutcome Asking.comingTo (fun _ _ _ => rfl) before

/-- The rules ask about parts only. Where all that they ask about has the same outcome, they ask the
same and come to the same. -/
theorem asked_spec (judge : Judge) (outcome other : TypeRef → Classification) (type : TypeRef) :
    (∀ part ∈ judge.asked outcome type, judge.HasPart type part) ∧
      ((∀ part ∈ judge.asked outcome type, outcome part = other part) →
        judge.asked other type = judge.asked outcome type ∧
        judge.ruledOutcome other type = judge.ruledOutcome outcome type) := by
  have parts (part : TypeRef) (member : judge.HasPart type part) :
      Asking.Agrees (judge.HasPart type) (fun part => outcome part = other part)
        (Asking.ask outcome part) (Asking.ask other part) := by
    intro before
    refine ⟨.ok (outcome part), [part], rfl, by simpa using member, fun told => ?_⟩
    rw [told part (.head _)]
    rfl
  obtain ⟨reached, asked, run, fine, told⟩ := rel_typeOutcome (Asking.agreeing _ _) parts []
  have record : judge.asked outcome type = asked := by
    rw [Judge.asked, run, List.append_nil]
  rw [record]
  refine ⟨fine, fun known => ⟨?_, ?_⟩⟩
  · rw [Judge.asked, told known, List.append_nil]
  · rw [ruledOutcome, ruledOutcome, ← run_ask judge other type [], told known,
      ← run_ask judge outcome type [], run]

/-- The rules ask about parts only. -/
theorem hasPart_of_mem_asked {part : TypeRef} (member : part ∈ judge.asked outcome type) :
    judge.HasPart type part :=
  (judge.asked_spec outcome outcome type).1 part member

open Classical in
/-- Outcomes where the rules ask for them, and other ones where they do not. -/
noncomputable def onAsked (judge : Judge) (type : TypeRef)
    (outcome other : TypeRef → Classification) (part : TypeRef) : Classification :=
  if part ∈ judge.asked outcome type then outcome part else other part

/-- What the rules do not ask about makes no difference. -/
theorem ruledOutcome_onAsked (judge : Judge) (type : TypeRef)
    (outcome other : TypeRef → Classification) :
    judge.ruledOutcome (judge.onAsked type outcome other) type =
      judge.ruledOutcome outcome type := by
  refine ((judge.asked_spec outcome _ type).2 fun part there => ?_).2
  rw [onAsked, if_pos there]

/-- What holds of the outcomes that the rules ask for, and of the others, holds of all. -/
theorem onAsked_induction {motive : TypeRef → Classification → Prop}
    (there : ∀ part ∈ judge.asked outcome type, motive part (outcome part))
    (elsewhere : ∀ part, motive part (other part)) (part : TypeRef) :
    motive part (judge.onAsked type outcome other part) := by
  unfold onAsked
  split
  next listed => exact there part listed
  · exact elsewhere part

/-- A type that is entered is judged by the outcomes of its parts. -/
theorem outcomeAt_of_opens (opens : visit.Opens) :
    judge.outcomeAt visit = judge.ruledOutcome (judge.outcomeBelow visit) visit.type := by
  have roomy := opens.roomy
  obtain ⟨room, less⟩ : ∃ room, visit.room = room + 1 := ⟨visit.room - 1, by omega⟩
  rw [outcomeAt, less, outcomeWithin_succ opens.fresh]
  unfold outcomeBelow outcomeAt Visit.below
  rw [less]
  rfl

/-- A type that cannot be entered is neither stable nor unstable. -/
theorem outcomeAt_of_not_opens (shut : ¬ visit.Opens) :
    (judge.outcomeAt visit).isStable = false ∧ (judge.outcomeAt visit).isUnstable = false := by
  unfold outcomeAt
  rcases Visit.mem_or_full shut with there | ⟨fresh, full⟩
  · rw [outcomeWithin_of_mem there]
    exact ⟨rfl, rfl⟩
  · rw [full, outcomeWithin_zero fresh]
    exact ⟨rfl, rfl⟩

/-- Every judge makes the same of a type that cannot be entered. -/
theorem outcomeAt_eq_of_not_opens (judge judge' : Judge) (shut : ¬ visit.Opens) :
    judge.outcomeAt visit = judge'.outcomeAt visit := by
  unfold outcomeAt
  rcases Visit.mem_or_full shut with there | ⟨fresh, full⟩
  · rw [outcomeWithin_of_mem there, outcomeWithin_of_mem there]
  · rw [full, outcomeWithin_zero fresh, outcomeWithin_zero fresh]

/-- A class that was found to be stable before, and that its names and annotations do not decide,
is not unstable. -/
def InferenceHolds (judge : Judge) (visit : Visit) : Prop :=
  ∀ declaration, judge.model.RefersTo visit.type declaration →
    judge.ownOutcome? declaration = none → declaration.IsConcrete →
    declaration.inferredParameters = some 0 → declaration.NoneMutable →
      (judge.outcomeAt visit).isUnstable = false

end Judge

end StableTypes
