import StableTypes.Proofs.GuardedOutcome

/-!
# Classifying leaves the guards as they were

Whatever the model answers, a classification ends with an outcome, never leaves a
signature out of order, and puts both guards back. So requests that share a guard
do not notice each other.
-/

namespace StableTypes

namespace DeclarationGuard

/-- A declaration added and removed again leaves no trace. -/
theorem remove_add {guard : DeclarationGuard} {id : String} (fresh : guard.has id = false) :
    (guard.add id).remove id = guard := by
  have new : id ∉ guard.active := by
    rw [has, List.contains_eq_mem, decide_eq_false_iff_not] at fresh
    exact fresh
  rw [add, if_neg (by simp [fresh]), remove, filter_ne_cons_of_notMem new]

end DeclarationGuard

namespace Judge

/-- Analyzing a declaration puts the declaration guard back, also where the rules were
not applied at all. -/
theorem analyzeClass_guard (judge : Judge) (outcome : TypeRef → Classification)
    (declaration : Declaration) (declarations : DeclarationGuard) :
    (judge.analyzeClass (m := Id) outcome declaration declarations).2 = declarations := by
  unfold analyzeClass
  split
  · rfl
  next fresh =>
    split
    · rfl
    · exact DeclarationGuard.remove_add (by simpa using fresh)

/-- Applying the rules for a declaration ends with an outcome and puts both guards back. -/
theorem classifyClass_restores (judge : Judge) (declaration : Declaration)
    (declarations : DeclarationGuard) (guard : SignatureGuard) :
    ∃ outcome, (judge.classifyClass declaration declarations).runOn guard =
      (.ok (outcome, declarations), guard) := by
  have run := classifyClass_runOn judge declaration declarations guard
  have back := analyzeClass_guard judge (judge.outcomeOn guard) declaration declarations
  generalize judge.analyzeClass (m := Id) (judge.outcomeOn guard) declaration declarations =
    reached at run back
  obtain ⟨outcome, after⟩ := reached
  exact ⟨outcome, back ▸ run⟩

/-- No step of a classification leaves a signature out of order. -/
theorem record_ordered {judge : Judge} {type : TypeRef} {guard : SignatureGuard}
    {event : GuardEvent} (member : event ∈ (judge.record type guard).2.2) (signature : String) :
    event ≠ .disorder signature := by
  have invariant : judge.StepInvariant (fun event => ∀ signature, event ≠ .disorder signature)
      (fun _ _ => True) := by
    constructor <;> intros <;> first | trivial | nofun
  obtain ⟨steps, run, fine⟩ := record_eq invariant trivial
  rw [run] at member
  exact fine event member signature

end Judge

/-- A request to the classification that shares its guard with other requests. -/
inductive GuardRequest where
  /-- To classify a type, which the host may fail to hand over. -/
  | classify (reading : Except Fault TypeRef)
  /-- To apply the rules for a declaration while some declarations are under analysis. -/
  | analyzeClass (declaration : Declaration) (declarations : DeclarationGuard)

/-- The answer to a request. -/
inductive GuardAnswer where
  /-- The outcome of a type. -/
  | type (outcome : Classification)
  /-- The outcome of a declaration, and the declarations under analysis afterwards. -/
  | declaration (outcome : Classification) (declarations : DeclarationGuard)

namespace GuardRequest

/-- Answers a request on the guard at hand. -/
def answer (judge : Judge) : GuardRequest → Analysis GuardAnswer
  | .classify reading => return .type (← judge.classifyReading reading)
  | .analyzeClass declaration declarations => do
    let (outcome, after) ← judge.classifyClass declaration declarations
    return .declaration outcome after

/-- Answers requests one after the other on one guard, whether or not some of them fail. -/
def answerAll (judge : Judge) : List GuardRequest → SignatureGuard →
    List (Except Fault GuardAnswer) × SignatureGuard
  | [], guard => ([], guard)
  | request :: requests, guard =>
    let (answer, after) := (request.answer judge).runOn guard
    let (answers, last) := answerAll judge requests after
    (answer :: answers, last)

/-- A request leaves the guard as it was. -/
theorem answer_runOn (judge : Judge) (request : GuardRequest) (guard : SignatureGuard) :
    ∃ answer, (request.answer judge).runOn guard = (.ok answer, guard) := by
  cases request with
  | classify reading =>
    obtain ⟨outcome, run⟩ := Judge.classifyReading_runOn judge reading guard
    refine ⟨.type outcome, ?_⟩
    rw [answer, Analysis.runOn_bind, run]
    rfl
  | analyzeClass declaration declarations =>
    obtain ⟨outcome, run⟩ := Judge.classifyClass_restores judge declaration declarations guard
    refine ⟨.declaration outcome declarations, ?_⟩
    rw [answer, Analysis.runOn_bind, run]
    rfl

/-- Requests on one guard are answered as each would be answered alone. -/
theorem answerAll_eq_map (judge : Judge) (requests : List GuardRequest) (guard : SignatureGuard) :
    answerAll judge requests guard =
      (requests.map fun request => ((request.answer judge).runOn guard).1, guard) := by
  induction requests with
  | nil => rfl
  | cons request requests ih =>
    obtain ⟨answer, run⟩ := answer_runOn judge request guard
    simp only [answerAll, run, ih, List.map_cons]

end GuardRequest

/-- Every classification ends with an outcome and every analysis of a declaration
does; both guards are then what they were, the record of the run has nothing that was
left out of order, and on a shared guard every request is answered as on a fresh one.
The model may fail at any query, and the host may fail to hand over the type. -/
theorem classification_leaves_guards (judge : Judge) :
    (∀ reading guard, ∃ outcome,
      (judge.classifyReading reading).runOn guard = (.ok outcome, guard)) ∧
    (∀ type guard,
      ((judge.record type guard).1, (judge.record type guard).2.1) =
        (judge.classify type).runOn guard ∧
      ∀ signature, .disorder signature ∉ (judge.record type guard).2.2) ∧
    (∀ declaration declarations guard, ∃ outcome,
      (judge.classifyClass declaration declarations).runOn guard =
        (.ok (outcome, declarations), guard)) ∧
    (∀ requests capacity, GuardRequest.answerAll judge requests (.fresh capacity) =
      (requests.map fun request => ((request.answer judge).runOn (.fresh capacity)).1,
        .fresh capacity)) := by
  refine ⟨Judge.classifyReading_runOn judge, ?_, Judge.classifyClass_restores judge, ?_⟩
  · intro type guard
    refine ⟨Judge.record_forgets judge type guard, fun signature member => ?_⟩
    exact Judge.record_ordered member signature rfl
  · exact fun requests capacity => GuardRequest.answerAll_eq_map judge requests _

end StableTypes
