import StableTypes.Proofs.ComposedSubstitution
import StableTypes.Proofs.WrittenReferences
import StableTypes.TypeRef.Builder

/-!
# Built references and read references

A type reference is made in two ways. One reads a document and completes what it states, the other
calls builders, and each fills in by itself what is left out. Both give the same reference: a
document is transcribed into a nesting of builders that are told exactly what it states, and by
induction on its levels the builders give what completion gives.

Either way the reference that comes out states everything. Its document is accepted, unless some
name in it is empty, and reading that changes nothing.
-/

namespace StableTypes

namespace TypeShape

/-! ## Completing what states everything -/

/-- The items of a list are completed one by one. -/
theorem completeEach_eq_map (shapes : List TypeShape) :
    completeEach shapes = shapes.map complete := by
  induction shapes with
  | nil => rfl
  | cons shape shapes ih => rw [completeEach, ih, List.map_cons]

/-- A list that is left out is completed by the empty one. -/
theorem completeAll_eq_getD (shapes : Option (List TypeShape)) :
    completeAll shapes = (shapes.map (·.map complete)).getD [] := by
  cases shapes with
  | none => rfl
  | some shapes => rw [completeAll, completeEach_eq_map]; rfl

/-- A receiver is completed if there is one. -/
theorem completeReceiver_eq_map (receiver : Option TypeShape) :
    completeReceiver receiver = receiver.map complete := by
  cases receiver <;> rfl

/-- A result that is left out is completed by the unit type. -/
theorem completeResult_eq_getD (result : Option TypeShape) :
    completeResult result = (result.map complete).getD (.nominal "kotlin.Unit" [] {}) := by
  cases result <;> rfl

/-- The shapes of a list of references, one by one. -/
theorem ofTypeRefs_eq_map (types : List TypeRef) : ofTypeRefs types = types.map ofTypeRef := by
  induction types with
  | nil => rfl
  | cons type types ih => rw [ofTypeRefs, ih, List.map_cons]

/-- The shape of a receiver, if there is one. -/
theorem ofReceiver_eq_map (receiver : Option TypeRef) :
    ofReceiver receiver = receiver.map ofTypeRef := by
  cases receiver <;> rfl

/-- A list of shapes that state everything is completed to their references if each of them is. -/
theorem completeAll_ofTypeRefs {types : List TypeRef}
    (each : ∀ type ∈ types, (ofTypeRef type).complete = type) :
    completeAll (some (ofTypeRefs types)) = types := by
  rw [completeAll, completeEach_eq_map, ofTypeRefs_eq_map, List.map_map]
  exact (List.map_congr_left each).trans (List.map_id' types)

/-- The shape of a reference states everything, so it is completed to the reference. -/
@[simp] theorem complete_ofTypeRef (type : TypeRef) : (ofTypeRef type).complete = type := by
  induction type using TypeRef.insideInduction with
  | nominal declarationId arguments marks inside =>
    rw [ofTypeRef, complete, completeAll_ofTypeRefs inside]
    rfl
  | parameter name marks => rfl
  | function suspending receiver parameters result marks before inside last =>
    have received : completeReceiver (ofReceiver receiver) = receiver := by
      rw [completeReceiver_eq_map, ofReceiver_eq_map, Option.map_map]
      exact (Option.map_congr before).trans (congrFun Option.map_id receiver)
    rw [ofTypeRef, complete, received, completeAll_ofTypeRefs inside, completeResult, last]
    rfl
  | abbreviation aliasId arguments marks inside =>
    rw [ofTypeRef, complete, completeAll_ofTypeRefs inside]
    rfl

/-- The shapes of named references are named. -/
theorem named_ofTypeRefs {types : List TypeRef} (each : ∀ type ∈ types, (ofTypeRef type).Named) :
    ∀ shapes ∈ some (ofTypeRefs types), ∀ shape ∈ shapes, shape.Named := by
  rintro _ ⟨⟩ shape member
  rw [ofTypeRefs_eq_map] at member
  obtain ⟨type, inside, rfl⟩ := List.mem_map.mp member
  exact each type inside

/-- A list that is left out or has named items is completed to named references. -/
theorem named_completeAll {shapes : Option (List TypeShape)}
    (each : ∀ list ∈ shapes, ∀ shape ∈ list, (ofTypeRef shape.complete).Named) :
    ∀ type ∈ completeAll shapes, (ofTypeRef type).Named := by
  intro type member
  cases shapes with
  | none => cases member
  | some shapes =>
    rw [completeAll, completeEach_eq_map] at member
    obtain ⟨shape, inside, rfl⟩ := List.mem_map.mp member
    exact each shapes rfl shape inside

/-- The shape of a named receiver is named. -/
theorem named_ofReceiver {receiver : Option TypeRef}
    (named : ∀ type ∈ receiver, (ofTypeRef type).Named) :
    ∀ shape ∈ ofReceiver receiver, shape.Named := by
  rw [ofReceiver_eq_map]
  intro shape given
  obtain ⟨type, stated, rfl⟩ := Option.mem_map.mp given
  exact named type stated

/-- The unit type is named. -/
theorem named_unit : (ofTypeRef (.nominal "kotlin.Unit" [] {})).Named :=
  .nominal (by decide) (named_ofTypeRefs nofun)

/-- A named shape is completed to a named reference. -/
theorem named_ofTypeRef_complete {shape : TypeShape} (named : shape.Named) :
    (ofTypeRef shape.complete).Named := by
  induction named with
  | nominal named each ih => exact .nominal named (named_ofTypeRefs (named_completeAll ih))
  | parameter named => exact .parameter named
  | @function suspending receiver parameters result marks _ _ _ received inside returned =>
    refine .function (named_ofReceiver ?_) (named_ofTypeRefs (named_completeAll inside)) ?_
    · rw [completeReceiver_eq_map]
      intro type given
      obtain ⟨shape, stated, rfl⟩ := Option.mem_map.mp given
      exact received shape stated
    · rintro _ ⟨⟩
      cases result with
      | none => exact named_unit
      | some result => exact returned result rfl
  | «alias» named each ih => exact .alias named (named_ofTypeRefs (named_completeAll ih))

end TypeShape

namespace TypeSpec

/-- Every name that a builder is told is not empty. -/
inductive Named : TypeSpec → Prop
  /-- A nominal reference. -/
  | nominal {id : String} {arguments : Option (List TypeSpec)} {options : UseOptions}
      (named : id ≠ "") (each : ∀ specs ∈ arguments, ∀ spec ∈ specs, Named spec) :
      Named (.nominal id arguments options)
  /-- A type parameter. -/
  | parameter {name : String} {options : UseOptions} (named : name ≠ "") :
      Named (.parameter name options)
  /-- A function type. -/
  | function {suspending : Option Bool} {receiver : Option TypeSpec}
      {parameters : Option (List TypeSpec)} {result : Option TypeSpec} {options : UseOptions}
      (received : ∀ spec ∈ receiver, Named spec)
      (each : ∀ specs ∈ parameters, ∀ spec ∈ specs, Named spec)
      (returned : ∀ spec ∈ result, Named spec) :
      Named (.function suspending receiver parameters result options)
  /-- A reference through an alias. -/
  | alias {id : String} {arguments : Option (List TypeSpec)} {options : UseOptions}
      (named : id ≠ "") (each : ∀ specs ∈ arguments, ∀ spec ∈ specs, Named spec) :
      Named (.alias id arguments options)
  /-- A use with another nullability. -/
  | withNullability {type : TypeSpec} {nullable : Bool} (named : Named type) :
      Named (.withNullability type nullable)

/-- The items of a list are built one by one. -/
theorem buildEach_eq_map (specs : List TypeSpec) : buildEach specs = specs.map build := by
  induction specs with
  | nil => rfl
  | cons spec specs ih => rw [buildEach, ih, List.map_cons]

/-- A list is built if a builder is told one. -/
theorem buildList_eq_map (specs : Option (List TypeSpec)) :
    buildList specs = specs.map (·.map build) := by
  cases specs with
  | none => rfl
  | some specs => rw [buildList, buildEach_eq_map]; rfl

/-- A single type is built if a builder is told one. -/
theorem buildPart_eq_map (spec : Option TypeSpec) : buildPart spec = spec.map build := by
  cases spec <;> rfl

/-- The items of a list that was left out or built from named ones are named. -/
theorem named_buildList {specs : Option (List TypeSpec)}
    (each : ∀ list ∈ specs, ∀ spec ∈ list, (TypeShape.ofTypeRef spec.build).Named) :
    ∀ type ∈ (buildList specs).getD [], (TypeShape.ofTypeRef type).Named := by
  intro type member
  cases specs with
  | none => cases member
  | some specs =>
    rw [buildList, buildEach_eq_map] at member
    obtain ⟨spec, inside, rfl⟩ := List.mem_map.mp member
    exact each specs rfl spec inside

/-- The nullability of a named reference has no part in its being named. -/
theorem named_withNullability {type : TypeRef} (named : (TypeShape.ofTypeRef type).Named)
    (nullable : Bool) : (TypeShape.ofTypeRef (type.withNullability nullable)).Named := by
  cases type with
  | nominal declarationId arguments marks =>
    cases named with
    | nominal named each => exact .nominal named each
  | parameter name marks =>
    cases named with
    | parameter named => exact .parameter named
  | function suspending receiver parameters result marks =>
    cases named with
    | function received each returned => exact .function received each returned
  | «alias» aliasId arguments marks =>
    cases named with
    | «alias» named each => exact .alias named each

/-- Builders that are told names give a named reference. -/
theorem named_ofTypeRef_build {spec : TypeSpec} (named : spec.Named) :
    (TypeShape.ofTypeRef spec.build).Named := by
  induction named with
  | nominal named each ih => exact .nominal named (TypeShape.named_ofTypeRefs (named_buildList ih))
  | parameter named => exact .parameter named
  | @function suspending receiver parameters result options _ _ _ received inside returned =>
    refine .function (TypeShape.named_ofReceiver ?_)
      (TypeShape.named_ofTypeRefs (named_buildList inside)) ?_
    · rw [buildPart_eq_map]
      intro type given
      obtain ⟨part, told, rfl⟩ := Option.mem_map.mp given
      exact received part told
    · rintro _ ⟨⟩
      cases result with
      | none => exact TypeShape.named_unit
      | some result => exact returned result rfl
  | «alias» named each ih => exact .alias named (TypeShape.named_ofTypeRefs (named_buildList ih))
  | withNullability named ih => exact named_withNullability ih _

/-! ## Transcribing documents -/

/-- The text that a document is; no other document has one. -/
def textOf : Json → String
  | .string text => text
  | _ => ""

/-- The truth value that a document is. -/
def flagOf : Json → Option Bool
  | .bool value => some value
  | _ => none

/-- The items of a list. -/
def itemsOf : Json → Option (List Json)
  | .array items => some items
  | _ => none

/-- The text that a member states. -/
def statedText (name : String) (members : List (String × Json)) : String :=
  ((Table.get? name members).map textOf).getD ""

/-- The truth value that a member states, if it is there. -/
def statedFlag (name : String) (members : List (String × Json)) : Option Bool :=
  (Table.get? name members).bind flagOf

/-- What a member states with every item of its list, if it is there. -/
def statedItems {α : Type} (each : Json → α) (name : String) (members : List (String × Json)) :
    Option (List α) :=
  ((Table.get? name members).bind itemsOf).map (·.map each)

/-- What members state about the marks of a use. -/
def statedOptions (members : List (String × Json)) : UseOptions :=
  ⟨statedFlag "nullable" members, statedItems textOf "annotations" members⟩

/-- The builders that are told exactly what the members of an object state. Those for a type inside
are found by the function given. -/
def ofMembers (inner : Json → TypeSpec) (members : List (String × Json)) : TypeSpec :=
  match statedText "kind" members with
  | "class" =>
    .nominal (statedText "declarationId" members) (statedItems inner "typeArguments" members)
      (statedOptions members)
  | "parameter" => .parameter (statedText "name" members) (statedOptions members)
  | "function" =>
    .function (statedFlag "suspending" members) ((Table.get? "receiverType" members).map inner)
      (statedItems inner "parameterTypes" members) ((Table.get? "returnType" members).map inner)
      (statedOptions members)
  | "alias" =>
    .alias (statedText "aliasId" members) (statedItems inner "typeArguments" members)
      (statedOptions members)
  | _ => .parameter "" {}

/-- The builders for a document of at most `depth` levels. -/
def ofDocumentWithin : (depth : Nat) → Json → TypeSpec
  | depth + 1, .object members => ofMembers (ofDocumentWithin depth) members
  | _, _ => .parameter "" {}

/-- The builders that are told exactly what a document states, at each of its levels. -/
def ofDocument (document : Json) : TypeSpec := ofDocumentWithin document.depth document

section

open Check

variable {α β : Type} {read : Json → Validated α} {name : String} {members : List (String × Json)}

/-- A name that was read is the text stated. -/
theorem statedText_of_required {id : String} (valid : required name nonempty members = .valid id) :
    statedText name members = id := by
  obtain ⟨document, found, valid⟩ := required_eq_valid_iff.mp valid
  obtain ⟨-, rfl⟩ := nonempty_eq_valid_iff.mp valid
  rw [statedText, found]
  rfl

/-- The kind is the text stated. -/
theorem statedText_of_hasKind {kind : String} (stated : Form.HasKind kind members) :
    statedText "kind" members = kind := by
  rw [statedText, stated]
  rfl

/-- What is stated by a member is what was read, if that is so of the document in it. -/
theorem bind_of_optional {view : Json → Option β} {content : α → β} {value : Option α}
    (same : ∀ {document inner}, read document = .valid inner → view document = some (content inner))
    (valid : optional name read members = .valid value) :
    (Table.get? name members).bind view = value.map content := by
  have related := optional_eq_valid_iff.mp valid
  generalize Table.get? name members = found at related
  cases related with
  | none => rfl
  | some read => exact same read

/-- A truth value that was read is the one stated. -/
theorem statedFlag_of_optional {value : Option Bool}
    (valid : optional name flag members = .valid value) : statedFlag name members = value := by
  rw [statedFlag, bind_of_optional (fun read => ?_) valid, Option.map_id']
  rw [flag_eq_valid_iff.mp read]
  rfl

/-- The items of a list state what was read, if that is so of each item. -/
theorem map_of_list {view : Json → β} {content : α → β} {items : List Json} {values : List α}
    (same : ∀ {item value}, read item = .valid value → view item = content value)
    (each : List.Forall₂ (fun item value => read item = .valid value) items values) :
    items.map view = values.map content := by
  rw [← List.forall₂_eq_eq_eq, List.forall₂_map_left_iff, List.forall₂_map_right_iff]
  exact each.imp fun _ _ => same

/-- A list that was read is the one stated, if that is so of each item. -/
theorem statedItems_of_optional {view : Json → β} {content : α → β} {values : Option (List α)}
    (same : ∀ {item value}, read item = .valid value → view item = content value)
    (valid : optional name (list read) members = .valid values) :
    statedItems view name members = values.map (·.map content) := by
  rw [statedItems, Option.map_bind]
  refine bind_of_optional (fun listed => ?_) valid
  obtain ⟨items, rfl, each⟩ := list_eq_valid_iff.mp listed
  exact congrArg some (map_of_list same each)

/-- Marks that were read are those that the builders give. -/
theorem marks_statedOptions {marks : MarksShape}
    (valid : TypeShape.readMarks members = .valid marks) :
    (statedOptions members).marks = marks.complete := by
  rw [TypeShape.readMarks] at valid
  simp only [Validated.also_eq_valid_iff, Validated.map_eq_valid_iff] at valid
  obtain ⟨_, annotations, ⟨nullable, flagged, rfl⟩, annotated, rfl⟩ := valid
  have texts : statedItems textOf "annotations" members = annotations.map (·.map id) :=
    statedItems_of_optional (fun read => by rw [text_eq_valid_iff.mp read]; rfl) annotated
  rw [statedOptions, UseOptions.marks, statedFlag_of_optional flagged, texts]
  simp [MarksShape.complete]

end

section

open TypeShape

variable {inner : Json → TypeSpec} {read : Json → Validated TypeShape}
  {name : String} {members : List (String × Json)}

/-- Of every document that is read, the builders give what the shape is completed to. -/
def Transcribes (inner : Json → TypeSpec) (read : Json → Validated TypeShape) : Prop :=
  ∀ {document shape}, read document = .valid shape → (inner document).build = shape.complete

/-- A type inside that was read is the one built. -/
theorem buildPart_of_optional (same : Transcribes inner read) {part : Option TypeShape}
    (valid : Check.optional name read members = .valid part) :
    buildPart ((Table.get? name members).map inner) = part.map complete := by
  rw [buildPart_eq_map, Option.map_map, Option.map_eq_bind]
  exact bind_of_optional (fun read => congrArg some (same read)) valid

/-- The types of a list that was read are those built. -/
theorem buildList_of_optional (same : Transcribes inner read) {parts : Option (List TypeShape)}
    (valid : Check.optional name (Check.list read) members = .valid parts) :
    (buildList (statedItems inner name members)).getD [] = completeAll parts := by
  have built : statedItems (build ∘ inner) name members = parts.map (·.map complete) :=
    statedItems_of_optional same valid
  rw [buildList_eq_map, completeAll_eq_getD, ← built]
  simp [statedItems]

/-- If the types inside are transcribed, so is what the members of an object state. -/
theorem build_ofMembers (same : Transcribes inner read) {shape : TypeShape}
    (stated : StatedBy read members shape) : (ofMembers inner members).build = shape.complete := by
  unfold ofMembers
  cases stated with
  | nominal kind stated list marked =>
    rw [statedText_of_hasKind kind, statedText_of_required stated]
    simp only [build, TypeRef.ofClass, complete,
      buildList_of_optional same list, marks_statedOptions marked]
  | parameter kind stated marked =>
    rw [statedText_of_hasKind kind, statedText_of_required stated]
    simp only [build, TypeRef.ofParameter, complete,
      marks_statedOptions marked]
  | function kind suspends received list returned marked =>
    rw [statedText_of_hasKind kind]
    simp only [build, TypeRef.ofFunction, complete,
      statedFlag_of_optional suspends, buildPart_of_optional same received,
      buildList_of_optional same list, buildPart_of_optional same returned,
      marks_statedOptions marked, completeReceiver_eq_map, completeResult_eq_getD]
    rfl
  | «alias» kind stated list marked =>
    rw [statedText_of_hasKind kind, statedText_of_required stated]
    simp only [build, TypeRef.ofAlias, complete,
      buildList_of_optional same list, marks_statedOptions marked]

end

/-- Documents are transcribed down to every depth. -/
theorem transcribes_ofDocumentWithin (depth : Nat) :
    Transcribes (ofDocumentWithin depth) (TypeShape.readWithin depth) := by
  induction depth with
  -- Without a level nothing is read.
  | zero => exact nofun
  | succ depth ih =>
    intro document shape valid
    obtain ⟨members, rfl, stated⟩ := TypeShape.readWithin_eq_valid_iff.mp valid
    exact build_ofMembers ih stated

end TypeSpec

/-- A reference whose shape is named is read from its document as it is. -/
theorem TypeRef.read_toJson {type : TypeRef} (named : (TypeShape.ofTypeRef type).Named) :
    TypeShape.read type.toJson = .valid (.ofTypeRef type) :=
  TypeShape.read_toJson named

open TypeShape

/-- A reference that was read and completed is accepted again and completed to itself, and the
builders that are told what its document states give the same reference. What builders give that are
told no empty name is accepted and completed to itself, too. Every reference comes out where all of
it is stated, so neither way is bound to a few of them. -/
theorem builders_agree_with_documents :
    (∀ document shape, TypeShape.read document = .valid shape →
      TypeShape.read shape.complete.toJson = .valid (ofTypeRef shape.complete) ∧
        (ofTypeRef shape.complete).complete = shape.complete ∧
        (TypeSpec.ofDocument document).build = shape.complete) ∧
    (∀ spec : TypeSpec, spec.Named →
      TypeShape.read spec.build.toJson = .valid (ofTypeRef spec.build) ∧
        (ofTypeRef spec.build).complete = spec.build) ∧
    (∀ type : TypeRef, (ofTypeRef type).complete = type) := by
  refine ⟨fun document shape valid => ?_, fun spec named => ?_, complete_ofTypeRef⟩
  · have named := named_ofTypeRef_complete (named_of_read valid)
    exact ⟨TypeRef.read_toJson named, complete_ofTypeRef _,
      TypeSpec.transcribes_ofDocumentWithin _ valid⟩
  · exact ⟨TypeRef.read_toJson (TypeSpec.named_ofTypeRef_build named), complete_ofTypeRef _⟩

/-- A nullable alias of a function type that states a receiver only. Its document and the builders
give the same reference, whose function has no parameters and the unit type as its result. -/
theorem handler_is_read_as_built :
    let argument : Json := .object [("kind", .string "parameter"), ("name", .string "T")]
    let receiver : Json := .object [("kind", .string "class"),
      ("declarationId", .string "app.Scope"), ("typeArguments", .array [argument])]
    let function : Json := .object [("kind", .string "function"), ("receiverType", receiver)]
    let document : Json := .object [("kind", .string "alias"), ("aliasId", .string "app.Handler"),
      ("typeArguments", .array [function]), ("nullable", .bool true)]
    let scope : TypeShape := .nominal "app.Scope" (some [.parameter "T" {}]) {}
    let shape : TypeShape := .alias "app.Handler"
      (some [.function none (some scope) none none {}]) ⟨some true, none⟩
    let told : TypeSpec := .nominal "app.Scope" (some [.parameter "T" {}]) {}
    let spec : TypeSpec := .withNullability
      (.alias "app.Handler" (some [.function none (some told) none none {}]) {}) true
    let type : TypeRef := .alias "app.Handler"
      [.function false (some (.nominal "app.Scope" [.parameter "T" {}] {})) []
        (.nominal "kotlin.Unit" [] {}) {}]
      ⟨true, []⟩
    TypeShape.read document = .valid shape ∧ shape.complete = type ∧ spec.build = type ∧
      (TypeSpec.ofDocument document).build = type ∧ spec.Named ∧
      TypeShape.read type.toJson = .valid (ofTypeRef type) := by
  intro argument receiver function document scope shape told spec type
  have read : TypeShape.read document = .valid shape := rfl
  have named : spec.Named := by
    refine .withNullability (.alias (by decide) ?_)
    rintro _ ⟨⟩ part member
    rcases List.mem_singleton.mp member with rfl
    refine .function ?_ nofun nofun
    rintro _ ⟨⟩
    refine .nominal (by decide) ?_
    rintro _ ⟨⟩ part member
    rcases List.mem_singleton.mp member with rfl
    exact .parameter (by decide)
  exact ⟨read, rfl, rfl, (builders_agree_with_documents.1 document shape read).2.2, named,
    (builders_agree_with_documents.2.1 spec named).1⟩

end StableTypes
