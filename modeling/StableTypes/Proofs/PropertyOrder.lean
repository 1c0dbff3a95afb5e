import StableTypes.Proofs.AlikeOutcomes
import StableTypes.Proofs.SnapshotWalk
import Mathlib.Data.List.Forall2

/-!
# The order of properties

Two snapshots that differ in the order of the properties of their declarations answer every query
alike, so each classification takes the same way in both, through cycles and down to the same depth.
The induction is on the room that is left on the stack of signatures, which is the same on both
sides: the rules turn parts that are alike into outcomes that are alike. Value classes are left as
they are, since the first of their properties is the one that they wrap.
-/

namespace StableTypes

/-- The second answer is the first one, as far as the order of properties is not looked at. -/
inductive Declaration.RearrangedAnswer :
    Except Fault (Option Declaration) → Except Fault (Option Declaration) → Prop
  /-- Both queries fail in one way. -/
  | fault (fault : Fault) : RearrangedAnswer (.error fault) (.error fault)
  /-- Both queries come to nothing, or to one declaration up to the order of its properties. -/
  | found {found found' : Option Declaration} : Option.Rel Declaration.Rearranged found found' →
      RearrangedAnswer (.ok found) (.ok found')

/-- The second model answers like the first one, as far as the order of properties is not looked
at. -/
structure TypeModel.Rearranged (model model' : TypeModel) : Prop where
  /-- References lead to declarations that differ in the order of their properties. -/
  resolve : ∀ type, Declaration.RearrangedAnswer (model.resolve type) (model'.resolve type)
  /-- Aliases lead to the same types. -/
  expandAlias : ∀ type, model'.expandAlias type = model.expandAlias type

namespace Judge

open Classification

/-- Aliases lead the same way where each of them does. -/
theorem expandWithin_congr {model model' : TypeModel}
    (same : ∀ type, model'.expandAlias type = model.expandAlias type) (start : TypeRef)
    (levels : Nat) (type : TypeRef) :
    expandWithin model' start levels type = expandWithin model start levels type := by
  induction levels generalizing type with
  | zero => rfl
  | succ levels ih => simp only [expandWithin, same, ih]

/-- The judge that asks another model. -/
def withModel (judge : Judge) (model : TypeModel) : Judge := { judge with model := model }

section

variable {judge : Judge} {model : TypeModel}

/-- The rules for declarations do not ask the model. -/
theorem declarationOutcome_withModel {m : Type → Type} [Monad m]
    (classify : TypeRef → m Classification) (annotations : List String)
    (declaration : Declaration) :
    (judge.withModel model).declarationOutcome classify annotations declaration =
      judge.declarationOutcome classify annotations declaration := rfl

/-- What a reference leads to is judged alike where its parts are. -/
theorem alike_answered {found found' : Except Fault (Option Declaration)}
    (answers : Declaration.RearrangedAnswer found found')
    {outcome outcome' : TypeRef → Classification}
    (parts : ∀ part, (outcome part).Alike (outcome' part)) (annotations : List String)
    (unresolved : Classification) (signature : String) :
    (recovered signature (do
        match ← answer found with
        | none => return unresolved
        | some declaration =>
          judge.declarationOutcome (fun part => .ok (outcome part)) annotations declaration)).Alike
      (recovered signature (do
        match ← answer found' with
        | none => return unresolved
        | some declaration =>
          (judge.withModel model).declarationOutcome (fun part => .ok (outcome' part)) annotations
            declaration)) := by
  rcases answers with fault | (⟨properties⟩ | _)
  · exact .refl _
  · simp only [answer, pure_bind]
    rw [declarationOutcome_withModel, declarationOutcome_succeeds, declarationOutcome_succeeds]
    exact alike_declarationOutcome judge parts annotations properties
  · exact .refl _

/-- A type is judged alike where its parts are. -/
theorem alike_typeOutcome (rearranged : judge.model.Rearranged model)
    {outcome outcome' : TypeRef → Classification}
    (parts : ∀ part, (outcome part).Alike (outcome' part)) (type : TypeRef) (signature : String) :
    (recovered signature
        (judge.typeOutcome (m := Except Fault) (fun part => .ok (outcome part)) type)).Alike
      (recovered signature ((judge.withModel model).typeOutcome (m := Except Fault)
        (fun part => .ok (outcome' part)) type)) := by
  have expansions : expandAliases (judge.withModel model).model type =
      expandAliases judge.model type := expandWithin_congr rearranged.expandAlias _ _ _
  unfold typeOutcome
  rw [expansions]
  rcases expandAliases judge.model type with fault | expanded | stuck
  · exact .refl _
  · simp only [answer, pure_bind]
    rcases expanded with ⟨declarationId, arguments, marks⟩ | _ | _ | _
    · exact alike_answered (rearranged.resolve _) parts _ _ signature
    · exact .refl _
    · exact .refl _
    · exact .refl _
  · exact .refl _

/-- A type has outcomes that are alike under both judges, wherever it comes up. -/
theorem alike_outcomeWithin (rearranged : judge.model.Rearranged model) (room : Nat)
    (active : List String) (type : TypeRef) :
    (judge.outcomeWithin room active type).Alike
      ((judge.withModel model).outcomeWithin room active type) := by
  induction room generalizing active type with
  | zero =>
    rw [outcomeWithin, outcomeWithin]
    exact .refl _
  | succ room ih =>
    rw [outcomeWithin, outcomeWithin]
    split
    · exact .refl _
    · exact alike_typeOutcome rearranged (ih (type.signature :: active)) type _

end

end Judge

/-- The second declaration of a snapshot is the first one, or it is no value class and has the same
properties in another order. -/
inductive DeclarationShape.Rearranged (shape : DeclarationShape) : DeclarationShape → Prop
  /-- Nothing changes. -/
  | itself : Rearranged shape shape
  /-- The order of the properties changes. -/
  | properties {properties : List PropertyShape} : shape.kind ≠ .value →
      shape.properties.Perm properties →
      Rearranged shape { shape with properties := properties }

/-- Two snapshots differ in the order of the properties of declarations that are no value
classes. -/
structure Snapshot.Rearranged (snapshot snapshot' : Snapshot) : Prop where
  /-- The declarations are the same, up to the order of their properties. -/
  declarations : List.Forall₂ DeclarationShape.Rearranged snapshot.declarations
    snapshot'.declarations
  /-- The aliases are the same. -/
  aliases : snapshot'.aliases = snapshot.aliases
  /-- The callables are the same. -/
  callables : snapshot'.callables = snapshot.callables

/-- What the snapshot leaves out is completed in the same way. -/
theorem Declaration.rearranged_ofShape {shape shape' : DeclarationShape}
    (rearranged : shape.Rearranged shape') :
    (Declaration.ofShape shape).Rearranged (Declaration.ofShape shape') := by
  rcases rearranged with _ | ⟨plain, perm⟩
  · exact .properties (.refl _)
  next properties =>
    have completed : Declaration.ofShape { shape with properties := properties } =
        { Declaration.ofShape shape with properties := properties.map Property.ofShape } := by
      simp only [Declaration.ofShape, wrappedProperty, if_neg plain]
    rw [completed]
    exact .properties (perm.map _)

namespace Snapshot.Rearranged

variable {snapshot snapshot' : Snapshot}

/-- Both snapshots know the same declarations, up to the order of their properties. -/
theorem declaration? (rearranged : snapshot.Rearranged snapshot') (id : String) :
    Option.Rel Declaration.Rearranged ((ProgramModel.ofSnapshot snapshot).declaration? id)
      ((ProgramModel.ofSnapshot snapshot').declaration? id) := by
  refine Table.rel_get?_ofList ?_ id
  rw [List.forall₂_map_left_iff, List.forall₂_map_right_iff]
  refine rearranged.declarations.imp fun shape shape' related => ⟨?_, ?_⟩
  · cases related <;> rfl
  · exact Declaration.rearranged_ofShape related

/-- Both snapshots answer queries about types alike. -/
theorem typeModel (rearranged : snapshot.Rearranged snapshot') :
    (ProgramModel.ofSnapshot snapshot).typeModel.Rearranged
      (ProgramModel.ofSnapshot snapshot').typeModel where
  resolve type := by
    refine .found ?_
    cases type with
    | nominal declarationId _ _ => exact rearranged.declaration? declarationId
    | _ => exact .none
  expandAlias type := by
    have aliases : (ProgramModel.ofSnapshot snapshot').aliases =
        (ProgramModel.ofSnapshot snapshot).aliases := by
      rw [ProgramModel.ofSnapshot, ProgramModel.ofSnapshot, rearranged.aliases]
    refine congrArg Except.ok ?_
    unfold ProgramModel.expandAlias ProgramModel.expansion?
    rw [aliases]

/-- Both snapshots know the same callables. -/
theorem callable? (rearranged : snapshot.Rearranged snapshot') (id : String) :
    (ProgramModel.ofSnapshot snapshot').callable? id =
      (ProgramModel.ofSnapshot snapshot).callable? id := by
  unfold ProgramModel.callable? ProgramModel.ofSnapshot
  rw [rearranged.callables]

end Snapshot.Rearranged

namespace Judge

section

variable {judge : Judge} {model : TypeModel}

/-- A type has outcomes that are alike under both judges, on every guard. -/
theorem alike_outcomeOn (rearranged : judge.model.Rearranged model) (guard : SignatureGuard)
    (type : TypeRef) :
    (judge.outcomeOn guard type).Alike ((judge.withModel model).outcomeOn guard type) :=
  alike_outcomeWithin rearranged guard.room guard.active type

/-- A callable whose inputs are alike can be skipped under both judges or neither. -/
theorem isSkippable_reportOn_withModel (rearranged : judge.model.Rearranged model)
    (guard : SignatureGuard) (callable : Callable) :
    ((judge.withModel model).reportOn guard callable).isSkippable =
      (judge.reportOn guard callable).isSkippable := by
  simp only [reportOn, callableReport, typeReportOn, TypeReport.ofOutcome, List.all_map,
    Function.comp_def, (alike_outcomeOn rearranged guard _).verdict]
  rfl

end

/-- In which order the declarations of a snapshot list their properties, value classes apart, does
not matter: every type that is classified with nothing entered has an outcome of the same kind and
the same verdict, and the same callables are known and can be skipped. -/
theorem property_order_is_irrelevant {snapshot snapshot' : Snapshot}
    (rearranged : snapshot.Rearranged snapshot') (catalog : Catalog) (policy : Policy) :
    (∀ type, ∃ outcome outcome',
      ((ofSnapshot snapshot catalog policy).classify type).runOn
          (.fresh policy.maxRecursionDepth) = (.ok outcome, .fresh policy.maxRecursionDepth) ∧
      ((ofSnapshot snapshot' catalog policy).classify type).runOn
          (.fresh policy.maxRecursionDepth) = (.ok outcome', .fresh policy.maxRecursionDepth) ∧
      outcome.kind = outcome'.kind ∧ outcome.verdict = outcome'.verdict) ∧
    ∀ id, ∃ report? report?',
      (ofSnapshot snapshot catalog policy).analyzeCallable
          (ProgramModel.ofSnapshot snapshot).callModel id = .ok report? ∧
      (ofSnapshot snapshot' catalog policy).analyzeCallable
          (ProgramModel.ofSnapshot snapshot').callModel id = .ok report?' ∧
      report?.map (·.isSkippable) = report?'.map (·.isSkippable) := by
  have models : (ofSnapshot snapshot catalog policy).model.Rearranged
      (ProgramModel.ofSnapshot snapshot').typeModel := rearranged.typeModel
  refine ⟨fun type => ?_, fun id => ?_⟩
  · obtain ⟨kind, verdict⟩ := alike_outcomeOn models (.fresh policy.maxRecursionDepth) type
    exact ⟨_, _, classify_runOn _ _ _, classify_runOn _ _ _, kind, verdict⟩
  · refine ⟨_, _, analyzeCallable_eq _ _ _, analyzeCallable_eq _ _ _, ?_⟩
    rw [rearranged.callable?, Option.map_map, Option.map_map]
    refine congrFun (congrArg Option.map (funext fun callable => ?_)) _
    exact (isSkippable_reportOn_withModel models _ callable).symm

end Judge

/-- Notes with the given properties, which may be titles or notes again, and a callable that is
given a note. -/
def Snapshot.notes (properties : List PropertyShape) : Snapshot where
  declarations := [
    { DeclarationShape.finalClass "Note" with properties := properties },
    { DeclarationShape.finalClass "Title" with
      kind := .value
      properties := [⟨"letters", .nominal "Letters" none {}, false⟩] }]
  aliases := []
  callables := [{
    id := "show"
    name := none
    qualifiedName := none
    parameters := [⟨"note", .nominal "Note" none {}⟩]
    receivers := []
    annotations := []
    callees := [] }]

/-- The title of a note. -/
def PropertyShape.title : PropertyShape := ⟨"title", .nominal "Title" none {}, false⟩

/-- The note after a note. -/
def PropertyShape.next : PropertyShape := ⟨"next", .nominal "Note" none {}, false⟩

namespace Judge

/-- Notes may list their title before or after the next note. -/
theorem notes_in_either_order :
    (Snapshot.notes [.title, .next]).Rearranged (.notes [.next, .title]) ∧
    (∃ outcome outcome',
      ((ofSnapshot (.notes [.title, .next]) default (.ofOptions {})).classify
        (.ofClass "Note")).runOn (.fresh 64) = (.ok outcome, .fresh 64) ∧
      ((ofSnapshot (.notes [.next, .title]) default (.ofOptions {})).classify
        (.ofClass "Note")).runOn (.fresh 64) = (.ok outcome', .fresh 64) ∧
      outcome.kind = outcome'.kind ∧ outcome.verdict = outcome'.verdict) ∧
    ∃ report? report?',
      (ofSnapshot (.notes [.title, .next]) default (.ofOptions {})).analyzeCallable
        (ProgramModel.ofSnapshot (.notes [.title, .next])).callModel "show" = .ok report? ∧
      (ofSnapshot (.notes [.next, .title]) default (.ofOptions {})).analyzeCallable
        (ProgramModel.ofSnapshot (.notes [.next, .title])).callModel "show" = .ok report?' ∧
      report?.map (·.isSkippable) = report?'.map (·.isSkippable) := by
  have rearranged : (Snapshot.notes [.title, .next]).Rearranged (.notes [.next, .title]) :=
    ⟨.cons (.properties (by decide) (.swap ..)) (.cons .itself .nil), rfl, rfl⟩
  have same := property_order_is_irrelevant rearranged default (.ofOptions {})
  exact ⟨rearranged, same.1 (.ofClass "Note"), same.2 "show"⟩

/-- The reasons, though, are given in the order of the properties. -/
example :
    ((ofSnapshot (.notes [.title, .next]) default (.ofOptions {})).outcomeOn (.fresh 64)
        (.ofClass "Note")).describe =
      "Value class - stability inherited from wrapped type (Letters); circular reference" ∧
    ((ofSnapshot (.notes [.next, .title]) default (.ofOptions {})).outcomeOn (.fresh 64)
        (.ofClass "Note")).describe =
      "circular reference; Value class - stability inherited from wrapped type (Letters)" := by
  decide +kernel

end Judge

end StableTypes
