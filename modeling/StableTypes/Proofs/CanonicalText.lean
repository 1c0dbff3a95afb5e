import StableTypes.Proofs.AliasTransparency
import StableTypes.Proofs.DepthIndependence
import StableTypes.Proofs.NullableForms
import StableTypes.Proofs.UniqueReading

/-!
# The text of a type as a key

A classification notices a cycle by the text of the type. Where all types that come up have a
readable text, that is the same as comparing the types themselves, up to nullability. Where they do
not, types can share a text, and then a cycle is reported that is none.
-/

namespace StableTypes

namespace TypeRef

mutual

/-- Two uses are the same. -/
def same : TypeRef → TypeRef → Bool
  | .nominal declarationId arguments marks, .nominal declarationId' arguments' marks' =>
    declarationId = declarationId' && sameAll arguments arguments' && marks = marks'
  | .parameter name marks, .parameter name' marks' => name = name' && marks = marks'
  | .function suspending receiver parameters result marks,
    .function suspending' receiver' parameters' result' marks' =>
    suspending = suspending' && sameReceiver receiver receiver' && sameAll parameters parameters'
      && same result result' && marks = marks'
  | .alias aliasId arguments marks, .alias aliasId' arguments' marks' =>
    aliasId = aliasId' && sameAll arguments arguments' && marks = marks'
  | _, _ => false
termination_by structural type => type

/-- Two lists hold the same uses. -/
def sameAll : List TypeRef → List TypeRef → Bool
  | [], [] => true
  | type :: types, type' :: types' => same type type' && sameAll types types'
  | _, _ => false
termination_by structural types => types

/-- Two receivers are the same. -/
def sameReceiver : Option TypeRef → Option TypeRef → Bool
  | none, none => true
  | some receiver, some receiver' => same receiver receiver'
  | _, _ => false
termination_by structural receiver => receiver

end

mutual

/-- Comparing uses decides whether they are equal. -/
theorem same_iff (type type' : TypeRef) : same type type' = true ↔ type = type' := by
  match type with
  | .nominal _ arguments _ =>
    cases type' <;> simp [same, sameAll_iff arguments, and_assoc]
  | .parameter _ _ => cases type' <;> simp [same]
  | .function _ receiver parameters result _ =>
    cases type' <;>
      simp [same, sameReceiver_iff receiver, sameAll_iff parameters, same_iff result, and_assoc]
  | .alias _ arguments _ =>
    cases type' <;> simp [same, sameAll_iff arguments, and_assoc]
termination_by structural type

/-- Comparing lists of uses decides whether they are equal. -/
theorem sameAll_iff (types types' : List TypeRef) :
    sameAll types types' = true ↔ types = types' := by
  match types with
  | [] => cases types' <;> simp [sameAll]
  | type :: types => cases types' <;> simp [sameAll, same_iff type, sameAll_iff types]
termination_by structural types

/-- Comparing receivers decides whether they are equal. -/
theorem sameReceiver_iff (receiver receiver' : Option TypeRef) :
    sameReceiver receiver receiver' = true ↔ receiver = receiver' := by
  match receiver with
  | none => cases receiver' <;> simp [sameReceiver]
  | some receiver => cases receiver' <;> simp [sameReceiver, same_iff receiver]
termination_by structural receiver

end

instance : DecidableEq TypeRef := fun type type' => decidable_of_iff _ (same_iff type type')

/-- Nullability does not matter to whether a type is readable. -/
theorem isReadable_nonNull (kinds : String → NameKind) (type : TypeRef) :
    type.nonNull.isReadable kinds = type.isReadable kinds := by
  cases type <;> rfl

/-- Readable types have one signature exactly if they are the same up to nullability. -/
theorem signature_eq_iff {kinds : String → NameKind} {type type' : TypeRef}
    (readable : type.isReadable kinds = true) (readable' : type'.isReadable kinds = true) :
    type.signature = type'.signature ↔ type.nonNull = type'.nonNull := by
  rw [← isReadable_nonNull] at readable readable'
  exact render_eq_iff readable readable'

end TypeRef

namespace Judge

/-- The outcome of a type where the types in `above` are under classification and `room` more fit:
a cycle is one of them, up to nullability. -/
def outcomeAmong (judge : Judge) : (room : Nat) → (above : List TypeRef) → TypeRef → Classification
  | room, above, type =>
    if type.nonNull ∈ above.map TypeRef.nonNull then
      .runtime type.signature Reason.circularReference
    else
      match room with
      | 0 => .runtime type.signature Reason.tooComplex
      | room + 1 => recovered type.signature
          (judge.typeOutcome (m := Except Fault)
            (fun part => .ok (judge.outcomeAmong room (type :: above) part)) type)

/-- Among readable types a signature is entered exactly if the type is, up to nullability. -/
theorem signature_mem_iff {kinds : String → NameKind} {type : TypeRef} {above : List TypeRef}
    (readable : type.isReadable kinds = true)
    (inside : ∀ other ∈ above, other.isReadable kinds = true) :
    type.signature ∈ above.map TypeRef.signature ↔ type.nonNull ∈ above.map TypeRef.nonNull := by
  simp only [List.mem_map]
  constructor
  · rintro ⟨other, member, same⟩
    exact ⟨other, member, (TypeRef.signature_eq_iff (inside other member) readable).mp same⟩
  · rintro ⟨other, member, same⟩
    exact ⟨other, member, (TypeRef.signature_eq_iff (inside other member) readable).mpr same⟩

/-- Where only readable types come up, comparing signatures comes to what comparing types does. -/
theorem outcomeWithin_eq_outcomeAmong {kinds : String → NameKind} {judge : Judge} (room : Nat)
    {above : List TypeRef} {type : TypeRef}
    (inside : ∀ other ∈ above, other.isReadable kinds = true)
    (readable : ∀ reached, Relation.ReflTransGen judge.HasPart type reached →
      reached.isReadable kinds = true) :
    judge.outcomeWithin room (above.map TypeRef.signature) type =
      judge.outcomeAmong room above type := by
  induction room generalizing above type with
  | zero =>
    rw [outcomeWithin, outcomeAmong]
    simp only [signature_mem_iff (readable type .refl) inside]
  | succ room ih =>
    rw [outcomeWithin, outcomeAmong]
    simp only [signature_mem_iff (readable type .refl) inside]
    have deeper : ∀ other ∈ type :: above, other.isReadable kinds = true := by
      rintro other (_ | ⟨_, member⟩)
      · exact readable _ .refl
      · exact inside other member
    have rules := rel_typeOutcome equality fun part (member : judge.HasPart type part) =>
      congrArg (Except.ok : Classification → Except Fault Classification)
        (ih deeper fun reached leads => readable reached (.head member leads))
    rw [← rules]
    rfl

end Judge

/-- Types that are readable with names of one kind each, completed as documents state them, have one
text exactly if they are the same. Where all types that come up are so, a classification reports a
cycle only for a type that is under classification, up to nullability. -/
theorem text_is_canonical (kinds : String → NameKind) :
    (∀ shape shape' : TypeShape, shape.complete.isReadable kinds = true →
      shape'.complete.isReadable kinds = true →
      (shape.complete.render = shape'.complete.render ↔ shape.complete = shape'.complete)) ∧
    ∀ (judge : Judge) (type : TypeRef),
      (∀ reached, Relation.ReflTransGen judge.HasPart type reached →
        reached.isReadable kinds = true) →
      (judge.classify type).runOn judge.freshGuard =
        (.ok (judge.outcomeAmong judge.freshGuard.room [] type), judge.freshGuard) := by
  constructor
  · intro shape shape' readable readable'
    exact TypeRef.render_eq_iff readable readable'
  · intro judge type readable
    rw [Judge.classify_runOn, Judge.outcomeOn]
    have among := Judge.outcomeWithin_eq_outcomeAmong judge.freshGuard.room
      (fun other member => absurd member List.not_mem_nil) readable
    rw [← among]
    rfl

/-- A letter is the name of a type parameter and all other names are names of declarations. -/
def NameKind.ofLetters (name : String) : NameKind :=
  if name.length = 1 then .parameter else .declaration

/-- A function type on a type parameter. -/
def TypeShape.action (nullable : Bool) : TypeShape :=
  .function none none (some [.parameter "T" {}]) none { nullable := some nullable }

/-- A function type on nodes, with a nullable function for a receiver. -/
def TypeShape.handler : TypeShape :=
  .function none (some (.action true)) (some [.nominal "Node" none {}]) none {}

namespace Judge

/-- The class with one property of its own type, with an empty catalog. -/
def ofSelfReferring : Judge := ofSnapshot .selfReferring default (.ofOptions {})

/-- A node leads to nodes only. -/
theorem eq_of_leads_ofSelfReferring {reached : TypeRef}
    (leads : Relation.ReflTransGen ofSelfReferring.HasPart (.ofClass "Node") reached) :
    reached = .ofClass "Node" := by
  induction leads with
  | refl => rfl
  | tail _ member ih =>
    subst ih
    have listed := Snapshot.mem_memberTypes_of_hasPart (.itself _ rfl) member
    exact List.mem_singleton.mp listed

/-- The function types have different texts, and a node is a cycle of the type itself. -/
theorem node_text_is_canonical :
    (TypeShape.handler.complete.render = (TypeShape.action false).complete.render ↔
      TypeShape.handler.complete = (TypeShape.action false).complete) ∧
    (ofSelfReferring.classify (.ofClass "Node")).runOn ofSelfReferring.freshGuard =
      (.ok (ofSelfReferring.outcomeAmong ofSelfReferring.freshGuard.room [] (.ofClass "Node")),
        ofSelfReferring.freshGuard) := by
  obtain ⟨texts, cycles⟩ := text_is_canonical .ofLetters
  refine ⟨texts .handler (.action false) (by decide +kernel) (by decide +kernel),
    cycles ofSelfReferring (.ofClass "Node") fun reached leads => ?_⟩
  rw [eq_of_leads_ofSelfReferring leads]
  decide +kernel

end Judge

/-- Types that share a text: a class, a type parameter and an alias of one name, a class whose name
spells arguments, a function type as a receiver and as what has a receiver for its result, and an
annotation of a receiver and of the function type. -/
def TypeRef.sharedTexts : List (TypeRef × TypeRef) :=
  [(.ofClass "T", .ofParameter "T"), (.ofClass "T", .ofAlias "T"),
    (.ofClass "Box<T>", .ofClass "Box" (some [.ofClass "T"])),
    (.ofFunction {
        receiver := some (.ofFunction {
          parameters := some [.ofClass "A"], result := some (.ofClass "B") })
        parameters := some [.ofClass "C"] },
      .ofFunction {
        parameters := some [.ofClass "A"]
        result := some (.ofFunction {
          receiver := some (.ofClass "B"), parameters := some [.ofClass "C"] }) }),
    (.ofFunction { receiver := some (.ofClass "A" none { annotations := some ["Inject"] }) },
      .ofFunction { receiver := some (.ofClass "A"), annotations := some ["Inject"] })]

/-- The alias and the class with one name, with an empty catalog. -/
def Judge.ofSharedText : Judge := ofSnapshot .sharedText default (.ofOptions {})

open Judge in
/-- Different types share a text, and where an alias and the class of an item do, a cycle is
reported for an item that is under classification nowhere: comparing the types finds none. -/
theorem texts_are_shared :
    (∀ pair ∈ TypeRef.sharedTexts, pair.1.render = pair.2.render ∧ pair.1 ≠ pair.2) ∧
    ofSharedText.freshReason (.ofAlias "Item") = .ok Reason.circularReference ∧
    (ofSharedText.outcomeAmong ofSharedText.freshGuard.room [] (.ofAlias "Item")).verdict =
      .stable := by
  refine ⟨?_, ?_, ?_⟩
  · decide +kernel
  · decide +kernel
  · decide +kernel

end StableTypes
