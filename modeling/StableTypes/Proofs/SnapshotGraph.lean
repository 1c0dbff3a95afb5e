import StableTypes.ProgramModel
import StableTypes.Proofs.OrderedTable
import StableTypes.Proofs.TypeGraph
import StableTypes.TypeRef.Builder
import Mathlib.Data.Set.Card
import Mathlib.Data.Set.Finite.List

/-!
# The types of a snapshot

In a program given as a snapshot a type leads to the types of the members of
declarations, in which type arguments are never substituted. So only finitely many
signatures can come up from a type, also where declarations refer to each other in
cycles, and a path of signatures without repetitions is no longer than their number.
-/

namespace StableTypes

/-- The types of the properties and supertypes of a declaration. -/
def Declaration.memberTypes (declaration : Declaration) : List TypeRef :=
  declaration.properties.map (·.type) ++ declaration.supertypes

namespace TypeModel

/-- The second type is the type of a property or a supertype of the declaration that the
first one refers to. -/
def HasMember (model : TypeModel) (type member : TypeRef) : Prop :=
  ∃ declaration, model.RefersTo type declaration ∧ member ∈ declaration.memberTypes

/-- The signatures of a type and of all types that its members lead to. -/
def signaturesFrom (model : TypeModel) (type : TypeRef) : Set String :=
  TypeRef.signature '' {reached | Relation.ReflTransGen model.HasMember type reached}

end TypeModel

/-- The types of the members of all declarations of a snapshot. -/
def Snapshot.memberTypes (snapshot : Snapshot) : List TypeRef :=
  snapshot.declarations.flatMap fun shape => (Declaration.ofShape shape).memberTypes

/-- The answers of a snapshot, with a catalog and a policy. -/
def Judge.ofSnapshot (snapshot : Snapshot) (catalog : Catalog) (policy : Policy) : Judge :=
  ⟨(ProgramModel.ofSnapshot snapshot).typeModel, catalog, policy⟩

/-- The signatures that can come up while a type of a snapshot is classified. -/
def Snapshot.signaturesFrom (snapshot : Snapshot) (type : TypeRef) : Set String :=
  (ProgramModel.ofSnapshot snapshot).typeModel.signaturesFrom type

namespace Snapshot

variable {snapshot : Snapshot} {type : TypeRef} {declaration : Declaration}

/-- The declaration that a type refers to is one of the snapshot. -/
theorem exists_shape_of_refersTo
    (h : (ProgramModel.ofSnapshot snapshot).typeModel.RefersTo type declaration) :
    ∃ shape ∈ snapshot.declarations, Declaration.ofShape shape = declaration := by
  obtain ⟨expanded, -, -, resolved⟩ := h
  have found : (ProgramModel.ofSnapshot snapshot).resolve expanded.nonNull = some declaration :=
    Except.ok.inj resolved
  unfold ProgramModel.resolve at found
  split at found
  next declarationId _ _ =>
    have member := Table.mem_of_get?_ofList found
    obtain ⟨shape, there, same⟩ := List.mem_map.mp member
    exact ⟨shape, there, (Prod.mk.inj same).2⟩
  · cases found

/-- A value class of a snapshot wraps one of its properties. -/
theorem wrapped_mem_properties {shape : DeclarationShape} {property : Property}
    (h : (Declaration.ofShape shape).wrapped = some property) :
    property ∈ (Declaration.ofShape shape).properties := by
  change wrappedProperty _ _ (Declaration.ofShape shape).properties = some property at h
  unfold wrappedProperty at h
  split at h
  · split at h
    · split at h
      · exact List.mem_of_mem_head? h
      · exact List.mem_of_find?_eq_some h
    · exact List.mem_of_mem_head? h
  · cases h

/-- The rules ask about members only. -/
theorem hasMember_of_hasPart {catalog : Catalog} {policy : Policy} {part : TypeRef}
    (h : (Judge.ofSnapshot snapshot catalog policy).HasPart type part) :
    (ProgramModel.ofSnapshot snapshot).typeModel.HasMember type part := by
  obtain ⟨declaration, refers, member⟩ := h
  obtain ⟨shape, -, rfl⟩ := exists_shape_of_refersTo refers
  refine ⟨_, refers, ?_⟩
  cases member with
  | wrapped wraps =>
    exact List.mem_append_left _ (List.mem_map_of_mem (wrapped_mem_properties wraps))
  | property there => exact List.mem_append_left _ (List.mem_map_of_mem there)
  | supertype there => exact List.mem_append_right _ there

/-- What comes up is the type itself or a member of some declaration. -/
theorem signaturesFrom_subset (snapshot : Snapshot) (type : TypeRef) :
    snapshot.signaturesFrom type ⊆
      {signature | signature ∈ (type :: snapshot.memberTypes).map TypeRef.signature} := by
  rintro _ ⟨reached, path, rfl⟩
  refine List.mem_map_of_mem ?_
  rcases Relation.ReflTransGen.cases_tail path with rfl | ⟨before, -, declaration, refers, member⟩
  · exact .head _
  · obtain ⟨shape, there, rfl⟩ := exists_shape_of_refersTo refers
    exact .tail _ (List.mem_flatMap.mpr ⟨shape, there, member⟩)

/-- Only finitely many signatures can come up. -/
theorem finite_signaturesFrom (snapshot : Snapshot) (type : TypeRef) :
    (snapshot.signaturesFrom type).Finite :=
  (List.finite_toSet _).subset (signaturesFrom_subset snapshot type)

/-- A part of a type that stands for a class is the type of a member of the declaration with the
id of the class. -/
theorem mem_memberTypes_of_hasPart {catalog : Catalog} {policy : Policy} {part : TypeRef}
    {id : String} {arguments : List TypeRef} {marks : Marks}
    (standsFor : (ProgramModel.ofSnapshot snapshot).typeModel.StandsFor type
      (.nominal id arguments marks))
    (h : (Judge.ofSnapshot snapshot catalog policy).HasPart type part) :
    part ∈ (((ProgramModel.ofSnapshot snapshot).declaration? id).map
      Declaration.memberTypes).getD [] := by
  obtain ⟨declaration, refers, member⟩ := hasMember_of_hasPart h
  have found : (ProgramModel.ofSnapshot snapshot).declaration? id = some declaration :=
    Except.ok.inj (standsFor.refersTo_iff.mp refers).2
  rw [found]
  exact member

/-- The signature of every type that is reached can come up. -/
theorem signature_mem_signaturesFrom {reached : TypeRef}
    (path : Relation.ReflTransGen (ProgramModel.ofSnapshot snapshot).typeModel.HasMember
      type reached) : reached.signature ∈ snapshot.signaturesFrom type :=
  ⟨reached, path, rfl⟩

end Snapshot

/-- A list without repetitions from a finite set is no longer than the set is large. -/
theorem length_le_ncard_of_nodup {path : List String} {reach : Set String}
    (distinct : path.Nodup) (within : ∀ signature ∈ path, signature ∈ reach)
    (finite : reach.Finite) : path.length ≤ reach.ncard := by
  rw [← List.toFinset_card_of_nodup distinct, ← Set.ncard_coe_finset]
  exact Set.ncard_le_ncard (fun signature member => within signature (by simpa using member)) finite

/-- A list without repetitions from a finite set is shorter where it misses a member. -/
theorem length_lt_ncard_of_notMem {path : List String} {reach : Set String}
    (distinct : path.Nodup) (within : ∀ signature ∈ path, signature ∈ reach)
    (finite : reach.Finite) {signature : String} (comes : signature ∈ reach)
    (fresh : signature ∉ path) : path.length < reach.ncard :=
  have longer : (signature :: path).Nodup := List.nodup_cons.mpr ⟨fresh, distinct⟩
  length_le_ncard_of_nodup longer (by simpa using ⟨comes, within⟩) finite

/-- A signature that can come up and is not on a path makes room for one more. -/
theorem Snapshot.length_lt_ncard {snapshot : Snapshot} {type : TypeRef} {path : List String}
    (distinct : path.Nodup) (within : ∀ signature ∈ path, signature ∈ snapshot.signaturesFrom type)
    {signature : String} (comes : signature ∈ snapshot.signaturesFrom type)
    (fresh : signature ∉ path) : path.length < (snapshot.signaturesFrom type).ncard :=
  length_lt_ncard_of_notMem distinct within (snapshot.finite_signaturesFrom type) comes fresh

/-- A final class without members, known by its id. -/
def DeclarationShape.finalClass (id : String) : DeclarationShape where
  id := id
  qualifiedName := .unstated
  simpleName := none
  kind := .plain
  modality := .final
  properties := []
  supertypes := []
  annotations := []
  wrappedProperty := none
  inferredParameters := none

/-- A class with one property, of its own type. -/
def Snapshot.selfReferring : Snapshot where
  declarations := [{
    id := "Node"
    qualifiedName := .unstated
    simpleName := none
    kind := .plain
    modality := .final
    properties := [⟨"next", .nominal "Node" none {}, false⟩]
    supertypes := []
    annotations := []
    wrappedProperty := none
    inferredParameters := none }]
  aliases := []
  callables := []

/-- A class that was found to be stable before and has entries, and a marked class that has a
key and extends the entries. The size of the entries is assigned. Unless they are bare, they are
annotated as stable. -/
def Snapshot.cache (bare : Bool) : Snapshot where
  declarations := [
    { DeclarationShape.finalClass "Cache" with
      properties := [⟨"entries", .nominal "Entries" none {}, false⟩]
      inferredParameters := some 0 },
    { DeclarationShape.finalClass "Record" with
      properties := [⟨"key", .nominal "Key" none {}, false⟩]
      supertypes := [.nominal "Entries" none {}]
      annotations := ["Marker"] },
    DeclarationShape.finalClass "Key",
    { DeclarationShape.finalClass "Entries" with
      properties := [⟨"size", .nominal "Key" none {}, true⟩]
      annotations := if bare then [] else ["Stable"] }]
  aliases := []
  callables := []

/-- The two classes and what they refer to, with one annotation for a marker and one for a promise
of stability. -/
def Judge.ofCache (bare : Bool) : Judge :=
  ofSnapshot (.cache bare)
    { (default : Catalog) with markerAnnotations := ["Marker"], stableAnnotations := ["Stable"] }
    (.ofOptions {})

/-- A type that refers to itself has one signature, so room for one is enough. -/
theorem Snapshot.signaturesFrom_selfReferring :
    selfReferring.signaturesFrom (.ofClass "Node") ⊆ {"Node"} := by
  intro signature comes
  have listed := signaturesFrom_subset _ _ comes
  rw [show ((TypeRef.ofClass "Node") :: selfReferring.memberTypes).map TypeRef.signature =
    ["Node", "Node"] by decide] at listed
  simpa using listed

end StableTypes
