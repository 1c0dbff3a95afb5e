import StableTypes.ProgramModel
import StableTypes.Proofs.WrittenReferences
import StableTypes.Snapshot.Reader
import StableTypes.Snapshot.Writer
import Mathlib.Tactic.MkIffOfInductiveProp

/-!
# The grammar of snapshots

A snapshot is an object with declarations, and perhaps aliases and callables. The forms of these and
of all that they hold are listed here member by member: what must be there, what may be there, and
what it has to be if it is. Each reader is shown to accept its form and no other document, part for
part, so that nothing but these forms decides whether a document is a snapshot.

What was read is written with every list, kind and modality stated. That document is read to the
same snapshot again, so to normalize it once more changes nothing.
-/

namespace StableTypes

namespace Form

/-- The members of a property. -/
@[mk_iff] structure PropertyForm (members : List (String × Json)) : Prop where
  /-- Its name. -/
  name : Has "name" IsName members
  /-- Its type. -/
  type : Has "type" IsType members
  /-- It can be assigned. -/
  mutable : MayHave "mutable" IsFlag members

/-- The members of a declaration. -/
@[mk_iff] structure DeclarationForm (members : List (String × Json)) : Prop where
  /-- Its id. -/
  id : Has "id" IsName members
  /-- Its qualified name, the one member that may be null. -/
  qualifiedName : MayHave "qualifiedName" (IsNullOr IsText) members
  /-- Its simple name. -/
  simpleName : MayHave "simpleName" IsText members
  /-- Its kind. -/
  kind : MayHave "kind" (IsOneOf ["class", "interface", "enum", "value_class", "unknown"]) members
  /-- Its modality. -/
  modality : MayHave "modality" (IsOneOf ["final", "open", "abstract", "sealed"]) members
  /-- Its properties. -/
  properties : MayHave "properties" (IsListOf (IsObject PropertyForm)) members
  /-- Its supertypes. -/
  supertypes : MayHave "supertypes" (IsListOf IsType) members
  /-- Its annotations. -/
  annotations : MayHave "annotations" (IsListOf IsText) members
  /-- The name of the property that it wraps. -/
  wrappedProperty : MayHave "wrappedProperty" IsText members
  /-- The record of a previous compilation. -/
  inferredStability : MayHave "inferredStability" (IsObject (Has "parameters" IsCount)) members

/-- The members of an alias. -/
@[mk_iff] structure AliasForm (members : List (String × Json)) : Prop where
  /-- Its id. -/
  id : Has "id" IsName members
  /-- The parameters of its target. -/
  typeParameters : MayHave "typeParameters" (IsListOf IsText) members
  /-- The type that it abbreviates. -/
  target : Has "target" IsType members

/-- The members of a parameter of a callable. -/
@[mk_iff] structure ParameterForm (members : List (String × Json)) : Prop where
  /-- Its name. -/
  name : Has "name" IsName members
  /-- Its type. -/
  type : Has "type" IsType members

/-- The members of a receiver of a callable. -/
@[mk_iff] structure ReceiverForm (members : List (String × Json)) : Prop where
  /-- What it is for. -/
  kind : Has "kind" (IsOneOf ["extension", "dispatch", "context"]) members
  /-- Its type. -/
  type : Has "type" IsType members

/-- The members of a callable. -/
@[mk_iff] structure CallableForm (members : List (String × Json)) : Prop where
  /-- Its id. -/
  id : Has "id" IsName members
  /-- Its name. -/
  name : MayHave "name" IsText members
  /-- Its qualified name. -/
  qualifiedName : MayHave "qualifiedName" IsText members
  /-- Its parameters. -/
  parameters : MayHave "parameters" (IsListOf (IsObject ParameterForm)) members
  /-- Its receivers. -/
  receivers : MayHave "receivers" (IsListOf (IsObject ReceiverForm)) members
  /-- Its annotations. -/
  annotations : MayHave "annotations" (IsListOf IsText) members
  /-- The ids that it calls. -/
  callees : MayHave "callees" (IsListOf IsText) members

/-- The members of a snapshot. -/
@[mk_iff] structure SnapshotForm (members : List (String × Json)) : Prop where
  /-- The declarations. -/
  declarations : Has "declarations" (IsListOf (IsObject DeclarationForm)) members
  /-- The aliases. -/
  aliases : MayHave "aliases" (IsListOf (IsObject AliasForm)) members
  /-- The callables. -/
  callables : MayHave "callables" (IsListOf (IsObject CallableForm)) members

/-- A document that is a snapshot. -/
def IsSnapshot : Json → Prop := IsObject SnapshotForm

end Form

open Check Validated Form

/-! ## Each reader accepts its form -/

/-- A qualified name may be null. -/
theorem StatedName.accepts_read : Accepts StatedName.read = IsNullOr IsText := by
  rw [← accepts_text]
  funext document
  cases document with
  | null => simp [Accepts, StatedName.read, IsNullOr, accepted_valid]
  | _ => simp [Accepts, StatedName.read, IsNullOr, accepted_map]

/-- The record of a previous compilation holds a natural number. -/
theorem accepts_readInferred : Accepts readInferred = IsObject (Has "parameters" IsCount) := by
  rw [readInferred, accepts_object]
  simp only [accepted_required, accepts_count]

/-- Properties are accepted in their form. -/
theorem PropertyShape.accepts_read : Accepts PropertyShape.read = IsObject PropertyForm :=
  accepts_object_eq fun members => by
    simp only [propertyForm_iff, accepted_also, accepted_map, accepted_required, accepted_defaulted,
      accepts_nonempty, accepts_flag, TypeShape.accepts_read, and_assoc]

/-- The names of the kinds are those of the grammar. -/
theorem ClassKind.accepts_names :
    Accepts (oneOf ClassKind.names) =
      IsOneOf ["class", "interface", "enum", "value_class", "unknown"] :=
  accepts_oneOf ClassKind.names

/-- The names of the modalities are those of the grammar. -/
theorem Modality.accepts_names :
    Accepts (oneOf Modality.names) = IsOneOf ["final", "open", "abstract", "sealed"] :=
  accepts_oneOf Modality.names

/-- The names of the kinds of receivers are those of the grammar. -/
theorem ReceiverKind.accepts_names :
    Accepts (oneOf ReceiverKind.names) = IsOneOf ["extension", "dispatch", "context"] :=
  accepts_oneOf ReceiverKind.names

/-- Declarations are accepted in their form. -/
theorem DeclarationShape.accepts_read :
    Accepts DeclarationShape.read = IsObject DeclarationForm :=
  accepts_object_eq fun members => by
    simp only [declarationForm_iff, accepted_also, accepted_map, accepted_required,
      accepted_optional, accepted_defaulted, accepts_nonempty, accepts_text, accepts_list,
      StatedName.accepts_read, ClassKind.accepts_names, Modality.accepts_names,
      PropertyShape.accepts_read, TypeShape.accepts_read, accepts_readInferred, and_assoc]

/-- Aliases are accepted in their form. -/
theorem AliasShape.accepts_read : Accepts AliasShape.read = IsObject AliasForm :=
  accepts_object_eq fun members => by
    simp only [aliasForm_iff, accepted_also, accepted_map, accepted_required, accepted_defaulted,
      accepts_nonempty, accepts_text, accepts_list, TypeShape.accepts_read, and_assoc]

/-- Parameters of callables are accepted in their form. -/
theorem ParameterShape.accepts_read : Accepts ParameterShape.read = IsObject ParameterForm :=
  accepts_object_eq fun members => by
    simp only [parameterForm_iff, accepted_also, accepted_map, accepted_required, accepts_nonempty,
      TypeShape.accepts_read]

/-- Receivers of callables are accepted in their form. -/
theorem ReceiverShape.accepts_read : Accepts ReceiverShape.read = IsObject ReceiverForm :=
  accepts_object_eq fun members => by
    simp only [receiverForm_iff, accepted_also, accepted_map, accepted_required,
      ReceiverKind.accepts_names, TypeShape.accepts_read]

/-- Callables are accepted in their form. -/
theorem CallableShape.accepts_read : Accepts CallableShape.read = IsObject CallableForm :=
  accepts_object_eq fun members => by
    simp only [callableForm_iff, accepted_also, accepted_map, accepted_required, accepted_optional,
      accepted_defaulted, accepts_nonempty, accepts_text, accepts_list, ParameterShape.accepts_read,
      ReceiverShape.accepts_read, and_assoc]

/-- Snapshots are accepted in their form. -/
theorem Snapshot.accepts_read : Accepts Snapshot.read = IsSnapshot :=
  accepts_object_eq fun members => by
    simp only [snapshotForm_iff, accepted_also, accepted_map, accepted_required, accepted_defaulted,
      accepts_list, DeclarationShape.accepts_read, AliasShape.accepts_read,
      CallableShape.accepts_read, and_assoc]

/-! ## Named snapshots -/

/-- No name in a property is empty. -/
structure PropertyShape.Named (shape : PropertyShape) : Prop where
  /-- Its name. -/
  name : shape.name ≠ ""
  /-- Its type. -/
  type : shape.type.Named

/-- No id or name in a declaration is empty. -/
structure DeclarationShape.Named (shape : DeclarationShape) : Prop where
  /-- Its id. -/
  id : shape.id ≠ ""
  /-- Its properties. -/
  properties : ∀ property ∈ shape.properties, property.Named
  /-- Its supertypes. -/
  supertypes : ∀ type ∈ shape.supertypes, type.Named

/-- No id or name in an alias is empty. -/
structure AliasShape.Named (shape : AliasShape) : Prop where
  /-- Its id. -/
  id : shape.id ≠ ""
  /-- Its target. -/
  target : shape.target.Named

/-- No name in a parameter of a callable is empty. -/
structure ParameterShape.Named (shape : ParameterShape) : Prop where
  /-- Its name. -/
  name : shape.name ≠ ""
  /-- Its type. -/
  type : shape.type.Named

/-- No id or name in a callable is empty, apart from names that it may leave out. -/
structure CallableShape.Named (shape : CallableShape) : Prop where
  /-- Its id. -/
  id : shape.id ≠ ""
  /-- Its parameters. -/
  parameters : ∀ parameter ∈ shape.parameters, parameter.Named
  /-- Its receivers. -/
  receivers : ∀ receiver ∈ shape.receivers, receiver.type.Named

/-- No id or name in a snapshot is empty, apart from names that it may leave out. -/
structure Snapshot.Named (snapshot : Snapshot) : Prop where
  /-- The declarations. -/
  declarations : ∀ declaration ∈ snapshot.declarations, declaration.Named
  /-- The aliases. -/
  aliases : ∀ shape ∈ snapshot.aliases, shape.Named
  /-- The callables. -/
  callables : ∀ callable ∈ snapshot.callables, callable.Named

section

variable {name : String} {members : List (String × Json)} {document : Json}

/-- A type that was read from a member is named. -/
theorem named_of_required {shape : TypeShape}
    (valid : required name TypeShape.read members = .valid shape) : shape.Named := by
  obtain ⟨document, -, valid⟩ := required_eq_valid_iff.mp valid
  exact TypeShape.named_of_read valid

/-- What holds of everything that was read holds of all values of a list that may be missing. -/
theorem forall_mem_of_defaulted {α : Type} {read : Json → Validated α} {holds : α → Prop}
    (each : ∀ {item value}, read item = .valid value → holds value) {values : List α}
    (valid : defaulted name (list read) [] members = .valid values) :
    ∀ value ∈ values, holds value := by
  intro value member
  obtain ⟨item, valid⟩ := exists_item_of_mem_defaulted valid member
  exact each valid

/-- A property that was read is named. -/
theorem PropertyShape.named_of_read {shape : PropertyShape}
    (valid : PropertyShape.read document = .valid shape) : shape.Named := by
  obtain ⟨members, -, readAll⟩ := object_eq_valid_iff.mp valid
  obtain ⟨_, mutable, toType, -, rfl⟩ := also_eq_valid_iff.mp readAll
  obtain ⟨_, type, toName, typed, rfl⟩ := also_eq_valid_iff.mp toType
  obtain ⟨name, named, rfl⟩ := map_eq_valid_iff.mp toName
  exact ⟨ne_empty_of_required named, named_of_required typed⟩

/-- A declaration that was read is named. -/
theorem DeclarationShape.named_of_read {shape : DeclarationShape}
    (valid : DeclarationShape.read document = .valid shape) : shape.Named := by
  obtain ⟨members, -, readAll⟩ := object_eq_valid_iff.mp valid
  -- The members are taken off from the last to the first.
  obtain ⟨_, inferred, toWrapped, -, rfl⟩ := also_eq_valid_iff.mp readAll
  obtain ⟨_, wrapped, toAnnotations, -, rfl⟩ := also_eq_valid_iff.mp toWrapped
  obtain ⟨_, annotations, toSupertypes, -, rfl⟩ := also_eq_valid_iff.mp toAnnotations
  obtain ⟨_, supertypes, toProperties, supertypeRead, rfl⟩ := also_eq_valid_iff.mp toSupertypes
  obtain ⟨_, properties, toModality, propertyRead, rfl⟩ := also_eq_valid_iff.mp toProperties
  obtain ⟨_, modality, toKind, -, rfl⟩ := also_eq_valid_iff.mp toModality
  obtain ⟨_, kind, toSimpleName, -, rfl⟩ := also_eq_valid_iff.mp toKind
  obtain ⟨_, simpleName, toQualifiedName, -, rfl⟩ := also_eq_valid_iff.mp toSimpleName
  obtain ⟨_, qualifiedName, toId, -, rfl⟩ := also_eq_valid_iff.mp toQualifiedName
  obtain ⟨id, named, rfl⟩ := map_eq_valid_iff.mp toId
  exact ⟨ne_empty_of_required named,
    forall_mem_of_defaulted PropertyShape.named_of_read propertyRead,
    forall_mem_of_defaulted TypeShape.named_of_read supertypeRead⟩

/-- An alias that was read is named. -/
theorem AliasShape.named_of_read {shape : AliasShape}
    (valid : AliasShape.read document = .valid shape) : shape.Named := by
  obtain ⟨members, -, readAll⟩ := object_eq_valid_iff.mp valid
  obtain ⟨_, target, toParameters, typed, rfl⟩ := also_eq_valid_iff.mp readAll
  obtain ⟨_, typeParameters, toId, -, rfl⟩ := also_eq_valid_iff.mp toParameters
  obtain ⟨id, named, rfl⟩ := map_eq_valid_iff.mp toId
  exact ⟨ne_empty_of_required named, named_of_required typed⟩

/-- A parameter of a callable that was read is named. -/
theorem ParameterShape.named_of_read {shape : ParameterShape}
    (valid : ParameterShape.read document = .valid shape) : shape.Named := by
  obtain ⟨members, -, readAll⟩ := object_eq_valid_iff.mp valid
  obtain ⟨_, type, toName, typed, rfl⟩ := also_eq_valid_iff.mp readAll
  obtain ⟨name, named, rfl⟩ := map_eq_valid_iff.mp toName
  exact ⟨ne_empty_of_required named, named_of_required typed⟩

/-- The type of a receiver that was read is named. -/
theorem ReceiverShape.named_of_read {shape : ReceiverShape}
    (valid : ReceiverShape.read document = .valid shape) : shape.type.Named := by
  obtain ⟨members, -, readAll⟩ := object_eq_valid_iff.mp valid
  obtain ⟨_, type, toKind, typed, rfl⟩ := also_eq_valid_iff.mp readAll
  obtain ⟨kind, -, rfl⟩ := map_eq_valid_iff.mp toKind
  exact named_of_required typed

/-- A callable that was read is named. -/
theorem CallableShape.named_of_read {shape : CallableShape}
    (valid : CallableShape.read document = .valid shape) : shape.Named := by
  obtain ⟨members, -, readAll⟩ := object_eq_valid_iff.mp valid
  obtain ⟨_, callees, toAnnotations, -, rfl⟩ := also_eq_valid_iff.mp readAll
  obtain ⟨_, annotations, toReceivers, -, rfl⟩ := also_eq_valid_iff.mp toAnnotations
  obtain ⟨_, receivers, toParameters, receiverRead, rfl⟩ := also_eq_valid_iff.mp toReceivers
  obtain ⟨_, parameters, toQualifiedName, parameterRead, rfl⟩ := also_eq_valid_iff.mp toParameters
  obtain ⟨_, qualifiedName, toName, -, rfl⟩ := also_eq_valid_iff.mp toQualifiedName
  obtain ⟨_, name, toId, -, rfl⟩ := also_eq_valid_iff.mp toName
  obtain ⟨id, named, rfl⟩ := map_eq_valid_iff.mp toId
  exact ⟨ne_empty_of_required named,
    forall_mem_of_defaulted ParameterShape.named_of_read parameterRead,
    forall_mem_of_defaulted ReceiverShape.named_of_read receiverRead⟩

/-- A snapshot that was read is named. -/
theorem Snapshot.named_of_read {snapshot : Snapshot}
    (valid : Snapshot.read document = .valid snapshot) : snapshot.Named := by
  obtain ⟨members, -, readAll⟩ := object_eq_valid_iff.mp valid
  obtain ⟨_, callables, toAliases, callableRead, rfl⟩ := also_eq_valid_iff.mp readAll
  obtain ⟨_, aliases, toDeclarations, aliasRead, rfl⟩ := also_eq_valid_iff.mp toAliases
  obtain ⟨declarations, stated, rfl⟩ := map_eq_valid_iff.mp toDeclarations
  obtain ⟨_, -, declarationRead⟩ := required_eq_valid_iff.mp stated
  refine ⟨fun declaration member => ?_, forall_mem_of_defaulted AliasShape.named_of_read aliasRead,
    forall_mem_of_defaulted CallableShape.named_of_read callableRead⟩
  obtain ⟨item, valid⟩ := exists_item_of_mem declarationRead member
  exact DeclarationShape.named_of_read valid

end

/-! ## Named snapshots are read back -/

/-- The name of a kind is the one under which it is listed. -/
theorem ClassKind.oneOf_name (kind : ClassKind) :
    oneOf ClassKind.names (.string kind.name) = .valid kind := by
  cases kind <;> rfl

/-- The name of a modality is the one under which it is listed. -/
theorem Modality.oneOf_name (modality : Modality) :
    oneOf Modality.names (.string modality.name) = .valid modality := by
  cases modality <;> rfl

/-- The name of a kind of receiver is the one under which it is listed. -/
theorem ReceiverKind.oneOf_name (kind : ReceiverKind) :
    oneOf ReceiverKind.names (.string kind.name) = .valid kind := by
  cases kind <;> rfl

section

variable {name : String} {members : List (String × Json)}

/-- A name that is not empty is read back where it stands. -/
theorem required_name_eq_valid {id : String} (named : id ≠ "")
    (found : Table.get? name members = some (.string id)) :
    required name nonempty members = .valid id :=
  required_eq_valid found (nonempty_eq_valid_iff.mpr ⟨named, rfl⟩)

/-- A named type is read back where it stands. -/
theorem required_type_eq_valid {shape : TypeShape} (named : shape.Named)
    (found : Table.get? name members = some shape.toJson) :
    required name TypeShape.read members = .valid shape :=
  required_eq_valid found (TypeShape.read_toJson named)

/-- A list that may be missing is read back where it stands if its items are. -/
theorem defaulted_list_eq_valid {α : Type} {read : Json → Validated α} {write : α → Json}
    {values : List α} (each : ∀ value ∈ values, read (write value) = .valid value)
    (found : Table.get? name members = some (.array (values.map write))) :
    defaulted name (list read) [] members = .valid values :=
  defaulted_eq_valid found (list_map_eq_valid each)

/-- A list of texts that may be missing is read back where it stands. -/
theorem defaulted_strings_eq_valid {texts : List String}
    (found : Table.get? name members = some (Json.strings texts)) :
    defaulted name (list text) [] members = .valid texts :=
  defaulted_eq_valid found (list_strings_eq_valid texts)

/-- A qualified name is read back from the member that was written for it. -/
theorem StatedName.defaulted_eq_valid {stated : StatedName}
    (found : Table.get? "qualifiedName" members = Table.get? "qualifiedName" stated.members) :
    defaulted "qualifiedName" StatedName.read .unstated members = .valid stated := by
  rw [defaulted, Check.optional, found]
  cases stated <;> rfl

end

/-- The record of a previous compilation is read back. -/
theorem readInferred_nat (parameters : Nat) :
    readInferred (.object [("parameters", Json.nat parameters)]) = .valid parameters := by
  rw [readInferred, object]
  exact required_eq_valid rfl (count_eq_valid_iff.mpr rfl)

/-- A named property is read back. -/
theorem PropertyShape.read_toJson {shape : PropertyShape} (named : shape.Named) :
    PropertyShape.read shape.toJson = .valid shape :=
  also_eq_valid (also_eq_valid (map_eq_valid _ (required_name_eq_valid named.name rfl))
    (required_type_eq_valid named.type rfl)) (defaulted_eq_valid rfl rfl)

/-- A named declaration is read back. -/
theorem DeclarationShape.read_toJson {shape : DeclarationShape} (named : shape.Named) :
    DeclarationShape.read shape.toJson = .valid shape := by
  rw [DeclarationShape.read, DeclarationShape.toJson, object]
  refine also_eq_valid (also_eq_valid (also_eq_valid (also_eq_valid (also_eq_valid (also_eq_valid
    (also_eq_valid (also_eq_valid (also_eq_valid
    (map_eq_valid _ (required_name_eq_valid named.id rfl))
    (StatedName.defaulted_eq_valid ?_)) (optional_text_eq_valid ?_))
    (defaulted_eq_valid ?_ shape.kind.oneOf_name))
    (defaulted_eq_valid ?_ shape.modality.oneOf_name))
    (defaulted_list_eq_valid
      (fun _ member => PropertyShape.read_toJson (named.properties _ member)) ?_))
    (defaulted_list_eq_valid
      (fun _ member => TypeShape.read_toJson (named.supertypes _ member)) ?_))
    (defaulted_strings_eq_valid ?_)) (optional_text_eq_valid ?_))
    (optional_eq_valid ?_ fun parameters _ => readInferred_nat parameters)
  -- The members stand under different names, so each is found where it was written.
  all_goals
    cases shape.qualifiedName <;>
      simp [StatedName.members, Table.get?_append, Table.get?_optional, Table.get?]

/-- A named alias is read back. -/
theorem AliasShape.read_toJson {shape : AliasShape} (named : shape.Named) :
    AliasShape.read shape.toJson = .valid shape :=
  also_eq_valid (also_eq_valid (map_eq_valid _ (required_name_eq_valid named.id rfl))
    (defaulted_strings_eq_valid rfl)) (required_type_eq_valid named.target rfl)

/-- A named parameter of a callable is read back. -/
theorem ParameterShape.read_toJson {shape : ParameterShape} (named : shape.Named) :
    ParameterShape.read shape.toJson = .valid shape :=
  also_eq_valid (map_eq_valid _ (required_name_eq_valid named.name rfl))
    (required_type_eq_valid named.type rfl)

/-- A receiver of a callable with a named type is read back. -/
theorem ReceiverShape.read_toJson {shape : ReceiverShape} (named : shape.type.Named) :
    ReceiverShape.read shape.toJson = .valid shape :=
  also_eq_valid (map_eq_valid _ (required_eq_valid rfl shape.kind.oneOf_name))
    (required_type_eq_valid named rfl)

/-- A named callable is read back. -/
theorem CallableShape.read_toJson {shape : CallableShape} (named : shape.Named) :
    CallableShape.read shape.toJson = .valid shape := by
  rw [CallableShape.read, CallableShape.toJson, object]
  refine also_eq_valid (also_eq_valid (also_eq_valid (also_eq_valid (also_eq_valid (also_eq_valid
    (map_eq_valid _ (required_name_eq_valid named.id rfl)) (optional_text_eq_valid ?_))
    (optional_text_eq_valid ?_))
    (defaulted_list_eq_valid
      (fun _ member => ParameterShape.read_toJson (named.parameters _ member)) ?_))
    (defaulted_list_eq_valid (fun _ member => ReceiverShape.read_toJson (named.receivers _ member))
      ?_))
    (defaulted_strings_eq_valid ?_)) (defaulted_strings_eq_valid ?_)
  all_goals
    simp [Table.get?_append, Table.get?_optional, Table.get?]

/-- A named snapshot is read back. -/
theorem Snapshot.read_toJson {snapshot : Snapshot} (named : snapshot.Named) :
    Snapshot.read snapshot.toJson = .valid snapshot :=
  also_eq_valid (also_eq_valid (map_eq_valid _ (required_eq_valid rfl (list_map_eq_valid
    fun _ member => DeclarationShape.read_toJson (named.declarations _ member))))
    (defaulted_list_eq_valid (fun _ member => AliasShape.read_toJson (named.aliases _ member)) rfl))
    (defaulted_list_eq_valid
      (fun _ member => CallableShape.read_toJson (named.callables _ member)) rfl)

/-! ## The snapshot of a document -/

namespace Snapshot

variable {document : Json} {snapshot : Snapshot}

/-- A snapshot is what is read from a document. -/
theorem ofDocument_eq_ok_iff :
    ofDocument (some document) = .ok snapshot ↔ Snapshot.read document = .valid snapshot := by
  rw [ofDocument, present]
  cases Snapshot.read document <;> simp

/-- There is a snapshot if the document is accepted. -/
theorem exists_ofDocument_iff :
    (∃ snapshot, ofDocument (some document) = .ok snapshot) ↔ IsSnapshot document := by
  simp only [ofDocument_eq_ok_iff, ← accepts_read]
  rfl

/-- A document that is not accepted fails with its issues. -/
theorem ofDocument_eq_error (other : ¬ IsSnapshot document) :
    ∃ first others, ofDocument (some document) = .error (.invalid first others) := by
  rw [ofDocument, present]
  cases found : Snapshot.read document with
  | valid snapshot =>
    exact absurd (exists_ofDocument_iff.mp ⟨snapshot, ofDocument_eq_ok_iff.mpr found⟩) other
  | invalid first others => exact ⟨first, others, rfl⟩

/-- A snapshot is read back from its document if it is named, and only then. -/
theorem ofDocument_toJson_iff :
    ofDocument (some snapshot.toJson) = .ok snapshot ↔ snapshot.Named := by
  rw [ofDocument_eq_ok_iff]
  exact ⟨named_of_read, read_toJson⟩

/-- A snapshot that was read is read back from its document. -/
theorem ofDocument_toJson (valid : ofDocument (some document) = .ok snapshot) :
    ofDocument (some snapshot.toJson) = .ok snapshot :=
  ofDocument_toJson_iff.mpr (named_of_read (ofDocument_eq_ok_iff.mp valid))

end Snapshot

open Snapshot

/-- A document gives a snapshot exactly if it follows the grammar, and otherwise fails with at least
one issue. What a document gives is again written by the grammar, and that document gives the same
snapshot, hence the same model. The snapshots that their documents give back are those in which no
name is empty. -/
theorem snapshots_follow_the_grammar :
    (∀ document, (∃ snapshot, ofDocument (some document) = .ok snapshot) ↔ IsSnapshot document) ∧
    (∀ document, ¬ IsSnapshot document → ∃ first others,
      ofDocument (some document) = .error (.invalid first others) ∧
        (Failure.invalid first others).issues ≠ []) ∧
    (∀ document snapshot, ofDocument (some document) = .ok snapshot →
      IsSnapshot snapshot.toJson ∧ ofDocument (some snapshot.toJson) = .ok snapshot ∧
        (ofDocument (some snapshot.toJson)).map ProgramModel.ofSnapshot =
          (ofDocument (some document)).map ProgramModel.ofSnapshot) ∧
    (∀ snapshot, ofDocument (some snapshot.toJson) = .ok snapshot ↔ snapshot.Named) := by
  refine ⟨fun _ => exists_ofDocument_iff, fun document other => ?_,
    fun document snapshot valid => ?_, fun _ => ofDocument_toJson_iff⟩
  · obtain ⟨first, others, failed⟩ := ofDocument_eq_error other
    exact ⟨first, others, failed, List.cons_ne_nil _ _⟩
  · have again := ofDocument_toJson valid
    exact ⟨exists_ofDocument_iff.mp ⟨snapshot, again⟩, again, by rw [again, valid]⟩

/-- A declaration that states little besides a member that no snapshot has. What is left out is
filled in only where the snapshot has a default: the type of the property keeps its gaps. Without
declarations there is no snapshot. -/
theorem sparse_declaration_is_read_back :
    let type : Json := .object [("kind", .string "function"),
      ("returnType", .object [("kind", .string "parameter"), ("name", .string "T")])]
    let document : Json := .object [("declarations", .array [.object [("id", .string "app.Box"),
      ("qualifiedName", .null), ("origin", .string "host"),
      ("properties", .array [.object [("name", .string "make"), ("type", type)]])]])]
    let declaration : DeclarationShape :=
      { id := "app.Box", qualifiedName := .absent, simpleName := none, kind := .plain,
        modality := .final,
        properties := [⟨"make", .function none none none (some (.parameter "T" {})) {}, false⟩],
        supertypes := [], annotations := [], wrappedProperty := none, inferredParameters := none }
    let snapshot : Snapshot := ⟨[declaration], [], []⟩
    ofDocument (some document) = .ok snapshot ∧ IsSnapshot document ∧
      ofDocument (some snapshot.toJson) = .ok snapshot ∧ snapshot.Named ∧
      ofDocument (some (.object [])) = .error (.invalid ⟨["declarations"], "Required"⟩ []) ∧
      ¬ IsSnapshot (.object []) := by
  intro type document declaration snapshot
  have read : ofDocument (some document) = .ok snapshot := rfl
  obtain ⟨accepted, -, normal, named⟩ := snapshots_follow_the_grammar
  have again : ofDocument (some snapshot.toJson) = .ok snapshot :=
    (normal document snapshot read).2.1
  refine ⟨read, (accepted document).mp ⟨snapshot, read⟩, again, (named snapshot).mp again, rfl,
    fun empty => ?_⟩
  obtain ⟨other, found⟩ := (accepted (.object [])).mpr empty
  cases found

end StableTypes
