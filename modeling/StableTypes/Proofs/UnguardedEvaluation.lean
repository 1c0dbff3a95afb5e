import StableTypes.Proofs.DepthIndependence
import StableTypes.Proofs.OutcomeLeaves
import StableTypes.Proofs.OutcomeOrigin

/-!
# Classification without guards

Where no chain of parts repeats a signature and no chain is longer than the stack may
grow, the rules can be applied by plain recursion over the parts. Here that recursion is
written down, with no guard for signatures, none for declarations and no bound, and a
guarded classification is shown to come to the same: along the way the guard only ever
lets signatures in. The induction is on the recursion; its invariant is that the stack
holds the signatures of the chain that leads to the type at hand.
-/

namespace StableTypes

/-- Every query about types is answered. -/
structure TypeModel.Answers (model : TypeModel) : Prop where
  /-- It is always said what a reference refers to. -/
  resolve : ∀ type, ∃ declaration?, model.resolve type = .ok declaration?
  /-- It is always said what an alias stands for. -/
  expandAlias : ∀ type, ∃ next, model.expandAlias type = .ok next

/-- The type is still an alias after as many levels as a classification follows. -/
def TypeModel.ManyAliases (model : TypeModel) (type : TypeRef) : Prop :=
  Judge.expandAliases model type = .ok (.stuck (.runtime type.signature Reason.tooComplex))

/-- The guard lets the signature in, or the signature is left again. -/
def GuardEvent.Admits : GuardEvent → Prop
  | .enter _ entry _ => entry = .entered
  | .exit _ _ => True
  | .disorder _ => False

namespace Judge

section

variable {m : Type → Type} [Monad m]

/-- The outcome of a declaration that a reference with the given annotations leads to, with no
regard to declarations whose rules are being applied. -/
def declarationRules (judge : Judge) (classify : TypeRef → m Classification)
    (annotations : List String) (declaration : Declaration) : m Classification :=
  match declaration.qualifiedName.filter judge.catalog.isFunctionInterface with
  | some name =>
    pure (.stable (functionReason judge.catalog annotations
      (judge.catalog.isSuspendFunctionInterface name)))
  | none =>
    if declaration.kind = .unknown then pure (.unknown declaration.simpleName)
    else judge.classRules classify declaration

/-- The outcome of a type, given how the types inside it are classified, with no regard to
declarations whose rules are being applied. -/
def typeRules [MonadExceptOf Fault m] (judge : Judge) (classify : TypeRef → m Classification)
    (type : TypeRef) : m Classification := do
  match ← answer (expandAliases judge.model type) with
  | .stuck outcome => return outcome
  | .reached expanded =>
    let expanded := expanded.nonNull
    let annotations := type.annotations ++ expanded.annotations
    match expanded with
    | .parameter name _ => return .parameter name
    | .function suspending _ _ _ _ =>
      return .stable (functionReason judge.catalog annotations suspending)
    | .alias .. => return .runtime expanded.render Reason.unresolved
    | .nominal .. =>
      match ← answer (judge.model.resolve expanded) with
      | none => return .runtime expanded.render Reason.unresolved
      | some declaration => judge.declarationRules classify annotations declaration

variable [LawfulMonad m]

/-- A declaration is never met while its own rules are applied. -/
theorem declarationOutcome_eq_declarationRules (judge : Judge)
    (classify : TypeRef → m Classification) (annotations : List String)
    (declaration : Declaration) :
    judge.declarationOutcome classify annotations declaration =
      judge.declarationRules classify annotations declaration := by
  unfold declarationOutcome declarationRules
  cases declaration.qualifiedName.filter judge.catalog.isFunctionInterface with
  | some name => rfl
  | none =>
    have outside : (DeclarationGuard.empty.has declaration.id) ≠ true := by
      simp [DeclarationGuard.has, DeclarationGuard.empty]
    unfold analyzeClass
    rw [if_neg outside]
    by_cases known : declaration.kind = .unknown
    · rw [if_pos known, pure_bind, if_pos known]
    · simp only [if_neg known, bind_assoc, pure_bind, bind_pure]

/-- The guard for declarations makes no difference to the outcome of a type. -/
theorem typeOutcome_eq_typeRules [MonadExceptOf Fault m] (judge : Judge)
    (classify : TypeRef → m Classification) (type : TypeRef) :
    judge.typeOutcome classify type = judge.typeRules classify type := by
  have same : judge.declarationOutcome classify = judge.declarationRules classify :=
    funext₂ (declarationOutcome_eq_declarationRules judge classify)
  unfold typeOutcome typeRules
  generalize judge.declarationOutcome classify = ruled at same
  subst same
  rfl

end

/-- No chain of parts from the type goes on forever. -/
def Grounded (judge : Judge) (type : TypeRef) : Prop :=
  Acc (fun part type => judge.HasPart type part) type

/-- A part of a type comes before it. -/
instance (judge : Judge) : WellFoundedRelation {type // judge.Grounded type} := Acc.wfRel

open Classical in
/-- The rules for a type, applied to what they make of its parts. No guard is asked and nothing
is cut off; what types that are not parts are said to be makes no difference. -/
noncomputable def unguarded (judge : Judge) :
    {type // judge.Grounded type} → Except Fault Classification
  | ⟨type, grounded⟩ => judge.typeRules (fun part =>
      if member : judge.HasPart type part then judge.unguarded ⟨part, grounded.inv member⟩
      else .ok default) type
termination_by type => type
decreasing_by exact member

section

open Classification

variable {judge : Judge}

/-- The unguarded outcome of a type is that of the rules, whatever is said about types that are
not parts. -/
theorem unguarded_eq {type : TypeRef} (grounded : judge.Grounded type)
    {classify : TypeRef → Except Fault Classification}
    (parts : ∀ part, ∀ member : judge.HasPart type part,
      judge.unguarded ⟨part, grounded.inv member⟩ = classify part) :
    judge.unguarded ⟨type, grounded⟩ = judge.typeRules classify type := by
  rw [unguarded, ← typeOutcome_eq_typeRules, ← typeOutcome_eq_typeRules]
  refine rel_typeOutcome equality fun part member => ?_
  exact (dif_pos member).trans (parts part member)

/-- Where every query is answered the aliases of a type lead somewhere or run on. -/
theorem expandWithin_ok {model : TypeModel} (answers : model.Answers) (start : TypeRef)
    (levels : Nat) (type : TypeRef) :
    (∃ expanded, expandWithin model start levels type = .ok (.reached expanded)) ∨
    (∃ name, expandWithin model start levels type =
      .ok (.stuck (.runtime name Reason.unresolved))) ∨
    expandWithin model start levels type =
      .ok (.stuck (.runtime start.signature Reason.tooComplex)) := by
  induction levels generalizing type with
  | zero =>
    unfold expandWithin
    split
    · exact .inr (.inr rfl)
    · exact .inl ⟨type, rfl⟩
  | succ levels ih =>
    unfold expandWithin
    split
    · obtain ⟨next, expands⟩ := answers.expandAlias type
      rw [expands]
      dsimp only
      split
      · exact .inr (.inl ⟨_, rfl⟩)
      · exact ih next
    · exact .inl ⟨type, rfl⟩

/-- What a reference makes of its declaration has the leaves of the parts at most. -/
theorem declarationRules_ok (judge : Judge) (outcome : TypeRef → Classification)
    (annotations : List String) (declaration : Declaration) :
    ∃ result, judge.declarationRules (m := Except Fault) (fun part => .ok (outcome part))
        annotations declaration = .ok result ∧
      ∀ among, (∀ part, judge.catalog.Part declaration part → OrdinaryOver among (outcome part)) →
        OrdinaryOver among result := by
  unfold declarationRules
  split
  · exact ⟨_, rfl, fun among _ => ordinaryOver_stable _⟩
  · split
    · exact ⟨_, rfl, fun among _ => ordinaryOver_unknown _⟩
    · exact ⟨_, rel_classRules succeeding fun _ _ => rfl, fun among => ordinaryOver_classRules⟩

/-- Where every query is answered a type has an outcome. Its leaves are those of the parts at
most, apart from that of a type whose aliases run on. -/
theorem typeRules_ok (answers : judge.model.Answers) (outcome : TypeRef → Classification)
    (type : TypeRef) :
    ∃ result, judge.typeRules (m := Except Fault) (fun part => .ok (outcome part)) type =
        .ok result ∧
      ∀ among, (judge.model.ManyAliases type →
          among (.runtime type.signature Reason.tooComplex)) →
        (∀ part, judge.HasPart type part → OrdinaryOver among (outcome part)) →
        OrdinaryOver among result := by
  have unresolved : Reason.Ordinary Reason.unresolved := ⟨by decide, by decide⟩
  unfold typeRules
  rcases expandWithin_ok answers type maxAliasExpansions type with
    ⟨expanded, reached⟩ | ⟨name, stuck⟩ | many
  · have standsFor := standsFor_of_expandAliases reached
    rw [expandAliases, reached]
    rcases expanded with ⟨declarationId, arguments, marks⟩ | _ | _ | _
    · simp only [answer, pure_bind]
      obtain ⟨declaration?, resolved⟩ :=
        answers.resolve (TypeRef.nominal declarationId arguments marks).nonNull
      rw [resolved]
      cases declaration? with
      | none => exact ⟨_, rfl, fun among _ _ => ordinaryOver_runtime _ unresolved⟩
      | some declaration =>
        obtain ⟨result, run, leaves⟩ := declarationRules_ok judge outcome (type.annotations ++
          (TypeRef.nominal declarationId arguments marks).nonNull.annotations) declaration
        refine ⟨result, run, fun among _ parts => leaves among fun part member => ?_⟩
        exact parts part ⟨declaration, ⟨_, standsFor, rfl, resolved⟩, member⟩
    · exact ⟨_, rfl, fun among _ _ => ordinaryOver_parameter _⟩
    · exact ⟨_, rfl, fun among _ _ => ordinaryOver_stable _⟩
    · exact ⟨_, rfl, fun among _ _ => ordinaryOver_runtime _ unresolved⟩
  · rw [expandAliases, stuck]
    exact ⟨_, rfl, fun among _ _ => ordinaryOver_runtime _ unresolved⟩
  · rw [expandAliases, many]
    refine ⟨_, rfl, fun among run _ leaf member => ?_⟩
    rw [leaves_of_not_combined rfl, List.mem_singleton] at member
    subst member
    exact .inr (run many)

/-- A leaf that stands for a type with too many aliases to which the parts lead. -/
def EndlessAliases (judge : Judge) (start : TypeRef) (leaf : Classification) : Prop :=
  ∃ reached, Relation.ReflTransGen judge.HasPart start reached ∧
    judge.model.ManyAliases reached ∧ leaf = .runtime reached.signature Reason.tooComplex

/-- Where every query is answered an unguarded classification ends with an outcome, and its
leaves are those of no cut-off, apart from types with too many aliases. -/
theorem unguarded_ok (answers : judge.model.Answers) (start : TypeRef) {type : TypeRef}
    (grounded : judge.Grounded type) (leads : Relation.ReflTransGen judge.HasPart start type) :
    ∃ outcome, judge.unguarded ⟨type, grounded⟩ = .ok outcome ∧
      OrdinaryOver (judge.EndlessAliases start) outcome := by
  induction grounded with
  | intro type below ih =>
    have parts : ∀ part, ∃ outcome, ∀ member : judge.HasPart type part,
        judge.unguarded ⟨part, below part member⟩ = .ok outcome ∧
          OrdinaryOver (judge.EndlessAliases start) outcome := by
      intro part
      by_cases member : judge.HasPart type part
      · obtain ⟨outcome, run, leaves⟩ := ih part member (leads.tail member)
        exact ⟨outcome, fun _ => ⟨run, leaves⟩⟩
      · exact ⟨default, fun member' => absurd member' member⟩
    choose outcome fine using parts
    obtain ⟨result, run, leaves⟩ := typeRules_ok answers outcome type
    refine ⟨result, ?_, leaves _ (fun many => ⟨type, leads, many, rfl⟩)
      fun part member => (fine part member).2⟩
    rw [unguarded_eq (.intro type below) fun part member => (fine part member).1]
    exact run

end

/-- A chain of parts that begins with the type `start`, the last part first. -/
structure PartChain (judge : Judge) (start : TypeRef) (chain : List TypeRef) : Prop where
  /-- The chain begins with the type. -/
  begins : chain.getLast? = some start
  /-- Each type but the first is a part of the one before. -/
  linked : chain.IsChain fun part type => judge.HasPart type part

namespace PartChain

variable {judge : Judge} {start type part : TypeRef} {above : List TypeRef}

/-- A type alone is a chain. -/
theorem single (judge : Judge) (type : TypeRef) : judge.PartChain type [type] :=
  ⟨rfl, .singleton type⟩

/-- A part makes a chain longer. -/
theorem cons (chain : judge.PartChain start (type :: above)) (member : judge.HasPart type part) :
    judge.PartChain start (part :: type :: above) where
  begins := by
    rw [List.getLast?_cons_cons]
    exact chain.begins
  linked := .cons_cons member chain.linked

/-- Where chains are no longer than some bound, none goes on forever. -/
theorem grounded {bound : Nat}
    (short : ∀ chain, judge.PartChain start chain → chain.length ≤ bound)
    (chain : judge.PartChain start (type :: above)) : judge.Grounded type := by
  obtain ⟨left, same⟩ : ∃ left, bound = left + above.length + 1 :=
    ⟨bound - (above.length + 1), by
      have fits := short _ chain
      rw [List.length_cons] at fits
      omega⟩
  induction left generalizing type above with
  | zero =>
    refine .intro type fun part member => ?_
    have fits := short _ (chain.cons member)
    simp only [List.length_cons] at fits
    omega
  | succ left ih =>
    refine .intro type fun part member => ih (chain.cons member) ?_
    rw [List.length_cons]
    omega

end PartChain

/-- The guard of a fresh classification with the signatures of a chain entered. -/
def guardOf (judge : Judge) (above : List TypeRef) : SignatureGuard :=
  ⟨judge.policy.maxRecursionDepth, above.map TypeRef.signature, above.map TypeRef.signature⟩

section

variable {judge : Judge} {start type : TypeRef} {above : List TypeRef}

/-- Where no chain repeats a signature, that of a type at the end of a chain is new. -/
theorem PartChain.notMem_guardOf
    (distinct : ∀ chain, judge.PartChain start chain → (chain.map TypeRef.signature).Nodup)
    (chain : judge.PartChain start (type :: above)) :
    type.signature ∉ (judge.guardOf above).active := by
  have new := distinct _ chain
  rw [List.map_cons, List.nodup_cons] at new
  exact new.1

/-- Where no chain is longer than the stack may grow, there is room for the type at its end. -/
theorem PartChain.room_guardOf
    (short : ∀ chain, judge.PartChain start chain →
      chain.length ≤ judge.policy.maxRecursionDepth)
    (chain : judge.PartChain start (type :: above)) : 0 < (judge.guardOf above).room := by
  have fits := short _ chain
  rw [List.length_cons] at fits
  simp only [guardOf, SignatureGuard.room, SignatureGuard.depth, List.length_map]
  omega

/-- A new type that fits is judged by the outcomes of its parts with its signature entered. -/
theorem outcomeOn_of_room {guard : SignatureGuard} (new : type.signature ∉ guard.active)
    (roomy : 0 < guard.room) :
    judge.outcomeOn guard type = recovered type.signature
      (judge.typeOutcome (m := Except Fault)
        (fun part => .ok (judge.outcomeOn (guard.push type.signature) part)) type) := by
  obtain ⟨room, left⟩ : ∃ room, guard.room = room + 1 := ⟨guard.room - 1, by omega⟩
  unfold outcomeOn
  rw [left, outcomeWithin_succ new, SignatureGuard.room_push left, SignatureGuard.push_active]

/-- Along the chains from a type the guarded outcomes are the unguarded ones. -/
theorem unguarded_eq_outcomeOn (answers : judge.model.Answers)
    (distinct : ∀ chain, judge.PartChain start chain → (chain.map TypeRef.signature).Nodup)
    (short : ∀ chain, judge.PartChain start chain →
      chain.length ≤ judge.policy.maxRecursionDepth)
    (grounded : judge.Grounded type) (chain : judge.PartChain start (type :: above)) :
    judge.unguarded ⟨type, grounded⟩ = .ok (judge.outcomeOn (judge.guardOf above) type) := by
  induction grounded generalizing above with
  | intro type below ih =>
    have parts : ∀ part, ∀ member : judge.HasPart type part,
        judge.unguarded ⟨part, below part member⟩ =
          .ok (judge.outcomeOn ((judge.guardOf above).push type.signature) part) :=
      fun part member => ih part member (chain.cons member)
    obtain ⟨result, run, -⟩ := typeRules_ok answers
      (judge.outcomeOn ((judge.guardOf above).push type.signature)) type
    rw [unguarded_eq (.intro type below) parts,
      outcomeOn_of_room (chain.notMem_guardOf distinct) (chain.room_guardOf short),
      typeOutcome_eq_typeRules, run]
    rfl

/-- Along the chains from a type the guard only lets signatures in. -/
theorem stepInvariant_chains
    (distinct : ∀ chain, judge.PartChain start chain → (chain.map TypeRef.signature).Nodup)
    (short : ∀ chain, judge.PartChain start chain →
      chain.length ≤ judge.policy.maxRecursionDepth) :
    judge.StepInvariant GuardEvent.Admits fun guard type =>
      ∃ above, guard = judge.guardOf above ∧ judge.PartChain start (type :: above) := by
  constructor
  case parts =>
    rintro _ type part ⟨above, rfl, chain⟩ - member
    exact ⟨type :: above, rfl, chain.cons member⟩
  case cycle =>
    rintro _ type ⟨above, rfl, chain⟩ there
    exact absurd there (chain.notMem_guardOf distinct)
  case tooDeep =>
    rintro _ type ⟨above, rfl, chain⟩ - full
    have roomy := chain.room_guardOf short
    omega
  case entered =>
    rintro _ type - -
    rfl
  case left =>
    rintro _ type - -
    trivial

end

/-- Where every query is answered, no chain of parts from a type repeats a signature, and none is
longer than the stack may grow, a fresh classification gives the outcome of the rules applied by
recursion over the parts without any guard. The guard only ever lets signatures in, and no leaf
of the outcome is that of a cycle or, but for types with too many aliases, of a type that is too
complex. -/
theorem guards_are_inert (judge : Judge) (type : TypeRef) (answers : judge.model.Answers)
    (distinct : ∀ chain, judge.PartChain type chain → (chain.map TypeRef.signature).Nodup)
    (short : ∀ chain, judge.PartChain type chain →
      chain.length ≤ judge.policy.maxRecursionDepth) :
    ∃ (grounded : judge.Grounded type) (outcome : Classification),
      judge.unguarded ⟨type, grounded⟩ = .ok outcome ∧
      (judge.classify type).runOn judge.freshGuard = (.ok outcome, judge.freshGuard) ∧
      (∀ event ∈ (judge.record type judge.freshGuard).2.2, event.Admits) ∧
      (∀ leaf ∈ outcome.leaves, ∀ name, leaf ≠ .runtime name Reason.circularReference) ∧
      (∀ leaf ∈ outcome.leaves, ∀ name, leaf = .runtime name Reason.tooComplex →
        ∃ reached, Relation.ReflTransGen judge.HasPart type reached ∧
          judge.model.ManyAliases reached ∧ name = reached.signature) := by
  have chain := PartChain.single judge type
  have grounded := PartChain.grounded short chain
  have same := unguarded_eq_outcomeOn answers distinct short grounded chain
  obtain ⟨outcome, run, leaves⟩ := unguarded_ok answers type grounded .refl
  obtain ⟨steps, recorded, fine⟩ := record_eq (stepInvariant_chains distinct short)
    ⟨[], rfl, chain⟩
  obtain rfl : outcome = judge.outcomeOn judge.freshGuard type :=
    Except.ok.inj (run.symm.trans same)
  refine ⟨grounded, _, run, classify_runOn judge type judge.freshGuard, ?_, ?_, ?_⟩
  · change ∀ event ∈ (judge.record type (judge.guardOf [])).2.2, _
    rw [recorded]
    exact fine
  · rintro leaf member name rfl
    rcases leaves _ member with ordinary | ⟨reached, -, -, same⟩
    · exact (ordinary name _ rfl).1 rfl
    · exact absurd (Classification.runtime.inj same).2 (by decide)
  · rintro leaf member name rfl
    rcases leaves _ member with ordinary | ⟨reached, leads, many, same⟩
    · exact absurd rfl (ordinary name _ rfl).2
    · exact ⟨reached, leads, many, (Classification.runtime.inj same).1⟩

/-- A chain of at least two types goes on from a shorter one to a part. -/
theorem PartChain.tail {judge : Judge} {start type part : TypeRef} {above : List TypeRef}
    (chain : judge.PartChain start (part :: type :: above)) :
    judge.PartChain start (type :: above) ∧ judge.HasPart type part := by
  obtain ⟨begins, linked⟩ := chain
  rw [List.getLast?_cons_cons] at begins
  rw [List.isChain_cons_cons] at linked
  exact ⟨⟨begins, linked.2⟩, linked.1⟩

/-- The marked class leads to its entries and to keys, and to nothing else. -/
theorem partChain_record {chain : List TypeRef}
    (h : (ofCache true).PartChain (.ofClass "Record") chain) :
    chain = [.ofClass "Record"] ∨ chain = [.ofClass "Key", .ofClass "Record"] ∨
      chain = [.ofClass "Entries", .ofClass "Record"] ∨
      chain = [.ofClass "Key", .ofClass "Entries", .ofClass "Record"] := by
  have record : ∀ part, (ofCache true).HasPart (.ofClass "Record") part →
      part = .ofClass "Key" ∨ part = .ofClass "Entries" := by
    intro part member
    have listed := Snapshot.mem_memberTypes_of_hasPart (.itself _ rfl) member
    rw [show (((ProgramModel.ofSnapshot (.cache true)).declaration? "Record").map
      Declaration.memberTypes).getD [] = [.ofClass "Key", .ofClass "Entries"] from rfl] at listed
    simpa using listed
  have entries : ∀ part, (ofCache true).HasPart (.ofClass "Entries") part →
      part = .ofClass "Key" := by
    intro part member
    have listed := Snapshot.mem_memberTypes_of_hasPart (.itself _ rfl) member
    rw [show (((ProgramModel.ofSnapshot (.cache true)).declaration? "Entries").map
      Declaration.memberTypes).getD [] = [.ofClass "Key"] from rfl] at listed
    simpa using listed
  have key : ∀ part, ¬ (ofCache true).HasPart (.ofClass "Key") part := by
    intro part member
    have listed := Snapshot.mem_memberTypes_of_hasPart (.itself _ rfl) member
    rw [show (((ProgramModel.ofSnapshot (.cache true)).declaration? "Key").map
      Declaration.memberTypes).getD [] = [] from rfl] at listed
    cases listed
  induction chain with
  | nil => cases h.begins
  | cons part above ih =>
    cases above with
    | nil =>
      obtain rfl : part = .ofClass "Record" := Option.some.inj h.begins
      exact .inl rfl
    | cons type above =>
      obtain ⟨shorter, member⟩ := h.tail
      rcases ih shorter with same | same | same | same <;> obtain ⟨rfl, rfl⟩ := List.cons.inj same
      · rcases record part member with rfl | rfl
        · exact .inr (.inl rfl)
        · exact .inr (.inr (.inl rfl))
      · exact absurd member (key part)
      · obtain rfl := entries part member
        exact .inr (.inr (.inr rfl))
      · exact absurd member (key part)

/-- The marked class with its key and its entries is classified as without any guard. -/
theorem guards_are_inert_for_record :
    ∃ (grounded : (ofCache true).Grounded (.ofClass "Record")) (outcome : Classification),
      (ofCache true).unguarded ⟨.ofClass "Record", grounded⟩ = .ok outcome ∧
      ((ofCache true).classify (.ofClass "Record")).runOn (ofCache true).freshGuard =
        (.ok outcome, (ofCache true).freshGuard) := by
  have answers : (ofCache true).model.Answers := ⟨fun _ => ⟨_, rfl⟩, fun _ => ⟨_, rfl⟩⟩
  have distinct : ∀ chain, (ofCache true).PartChain (.ofClass "Record") chain →
      (chain.map TypeRef.signature).Nodup := by
    intro chain h
    rcases partChain_record h with rfl | rfl | rfl | rfl <;> decide
  have short : ∀ chain, (ofCache true).PartChain (.ofClass "Record") chain →
      chain.length ≤ (ofCache true).policy.maxRecursionDepth := by
    intro chain h
    rcases partChain_record h with rfl | rfl | rfl | rfl <;> decide
  obtain ⟨grounded, outcome, run, guarded, -⟩ :=
    guards_are_inert (ofCache true) (.ofClass "Record") answers distinct short
  exact ⟨grounded, outcome, run, guarded⟩

end Judge

end StableTypes
