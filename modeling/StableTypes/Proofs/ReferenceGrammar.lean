import StableTypes.Proofs.CheckedReading
import StableTypes.TypeRef.Shape

/-!
# The grammar of written type references

A type reference is an object that names one of four kinds. Each kind has a name that may not be
empty, and members that may be missing; arguments, receivers and results are type references again,
to any depth. The reader is given the levels of a document as a bound on its recursion, and it is
shown that the bound never shows: by induction on it, what is read with at least the levels of the
document is accepted exactly if the grammar derives it.
-/

namespace StableTypes

namespace Json

/-- A member of an object is at most as deep as all its members. -/
theorem depth_le_membersDepth {name : String} {document : Json} {members : List (String × Json)}
    (found : Table.get? name members = some document) : document.depth ≤ membersDepth members := by
  induction members with
  | nil => cases found
  | cons entry rest ih =>
    obtain ⟨other, value⟩ := entry
    rw [Table.get?] at found
    rw [membersDepth]
    split at found
    · cases found
      exact Nat.le_max_left _ _
    · exact (ih found).trans (Nat.le_max_right _ _)

/-- An item of a list is at most as deep as all its items. -/
theorem depth_le_itemsDepth {item : Json} {items : List Json} (member : item ∈ items) :
    item.depth ≤ itemsDepth items := by
  induction items with
  | nil => cases member
  | cons first rest ih =>
    rw [itemsDepth]
    rcases List.mem_cons.mp member with rfl | later
    · exact Nat.le_max_left _ _
    · exact (ih later).trans (Nat.le_max_right _ _)

/-- An item of a list in a member lies below all members. -/
theorem depth_lt_membersDepth {name : String} {item : Json} {items : List Json}
    {members : List (String × Json)} (found : Table.get? name members = some (.array items))
    (member : item ∈ items) : item.depth < membersDepth members :=
  (Nat.lt_succ_of_le (depth_le_itemsDepth member)).trans_le (depth_le_membersDepth found)

end Json

namespace Form

/-- The members that state the marks of a reference. -/
structure HasMarks (members : List (String × Json)) : Prop where
  /-- Its nullability. -/
  nullable : MayHave "nullable" IsFlag members
  /-- Its annotations. -/
  annotations : MayHave "annotations" (IsListOf IsText) members

/-- A list. -/
def IsList : Json → Prop := IsListOf fun _ => True

/-- An item of the list in a member. -/
def IsItemOf (name : String) (members : List (String × Json)) (item : Json) : Prop :=
  ∃ items, Table.get? name members = some (.array items) ∧ item ∈ items

/-- A member that states its kind. -/
def HasKind (kind : String) (members : List (String × Json)) : Prop :=
  Table.get? "kind" members = some (.string kind)

/-- A written type reference. -/
inductive IsType : Json → Prop
  /-- A reference to a declaration. -/
  | nominal {members : List (String × Json)} (kind : HasKind "class" members)
      (id : Has "declarationId" IsName members) (list : MayHave "typeArguments" IsList members)
      (arguments : ∀ argument, IsItemOf "typeArguments" members argument → IsType argument)
      (marks : HasMarks members) : IsType (.object members)
  /-- A type parameter. -/
  | parameter {members : List (String × Json)} (kind : HasKind "parameter" members)
      (name : Has "name" IsName members) (marks : HasMarks members) : IsType (.object members)
  /-- A function type. -/
  | function {members : List (String × Json)} (kind : HasKind "function" members)
      (suspending : MayHave "suspending" IsFlag members)
      (receiver : MayHave "receiverType" IsType members)
      (list : MayHave "parameterTypes" IsList members)
      (parameters : ∀ parameter, IsItemOf "parameterTypes" members parameter → IsType parameter)
      (result : MayHave "returnType" IsType members) (marks : HasMarks members) :
      IsType (.object members)
  /-- A reference through an alias. -/
  | alias {members : List (String × Json)} (kind : HasKind "alias" members)
      (id : Has "aliasId" IsName members) (list : MayHave "typeArguments" IsList members)
      (arguments : ∀ argument, IsItemOf "typeArguments" members argument → IsType argument)
      (marks : HasMarks members) : IsType (.object members)

/-- A list of documents of one form is a list, and each of its items has the form. -/
theorem mayHave_listOf_iff {name : String} {form : Json → Prop} {members : List (String × Json)} :
    MayHave name (IsListOf form) members ↔
      MayHave name IsList members ∧ ∀ item, IsItemOf name members item → form item := by
  constructor
  · intro listed
    refine ⟨fun document found => ?_, fun item ⟨items, found, member⟩ => ?_⟩
    · obtain ⟨items, rfl, -⟩ := listed document found
      exact ⟨items, rfl, fun _ _ => trivial⟩
    · obtain ⟨_, same, each⟩ := listed _ found
      cases same
      exact each item member
  · rintro ⟨listed, each⟩ document found
    obtain ⟨items, rfl, -⟩ := listed document found
    exact ⟨items, rfl, fun item member => each item ⟨items, found, member⟩⟩

/-- The members of a reference of each kind, where what is inside it has the form given. -/
inductive KindForm (form : Json → Prop) (members : List (String × Json)) : Prop
  /-- A reference to a declaration. -/
  | nominal (kind : HasKind "class" members) (id : Has "declarationId" IsName members)
      (arguments : MayHave "typeArguments" (IsListOf form) members) (marks : HasMarks members)
  /-- A type parameter. -/
  | parameter (kind : HasKind "parameter" members) (name : Has "name" IsName members)
      (marks : HasMarks members)
  /-- A function type. -/
  | function (kind : HasKind "function" members) (suspending : MayHave "suspending" IsFlag members)
      (receiver : MayHave "receiverType" form members)
      (parameters : MayHave "parameterTypes" (IsListOf form) members)
      (result : MayHave "returnType" form members) (marks : HasMarks members)
  /-- A reference through an alias. -/
  | alias (kind : HasKind "alias" members) (id : Has "aliasId" IsName members)
      (arguments : MayHave "typeArguments" (IsListOf form) members) (marks : HasMarks members)

/-- The grammar derives an object if it derives what is inside it. -/
theorem isType_object_iff {members : List (String × Json)} :
    IsType (.object members) ↔ KindForm IsType members := by
  constructor
  · intro type
    cases type with
    | nominal kind id list arguments marks =>
      exact .nominal kind id (mayHave_listOf_iff.mpr ⟨list, arguments⟩) marks
    | parameter kind name marks => exact .parameter kind name marks
    | function kind suspending receiver list parameters result marks =>
      exact .function kind suspending receiver (mayHave_listOf_iff.mpr ⟨list, parameters⟩) result
        marks
    | «alias» kind id list arguments marks =>
      exact .alias kind id (mayHave_listOf_iff.mpr ⟨list, arguments⟩) marks
  · intro form
    cases form with
    | nominal kind id arguments marks =>
      obtain ⟨list, arguments⟩ := mayHave_listOf_iff.mp arguments
      exact .nominal kind id list arguments marks
    | parameter kind name marks => exact .parameter kind name marks
    | function kind suspending receiver parameters result marks =>
      obtain ⟨list, parameters⟩ := mayHave_listOf_iff.mp parameters
      exact .function kind suspending receiver list parameters result marks
    | «alias» kind id arguments marks =>
      obtain ⟨list, arguments⟩ := mayHave_listOf_iff.mp arguments
      exact .alias kind id list arguments marks

/-- Only the form of members and of items of lists in members counts. -/
theorem KindForm.imp {form form' : Json → Prop} {members : List (String × Json)}
    (single : ∀ name part, Table.get? name members = some part → form part → form' part)
    (item : ∀ name part, IsItemOf name members part → form part → form' part)
    (given : KindForm form members) : KindForm form' members := by
  have part {name : String} (inside : MayHave name form members) : MayHave name form' members :=
    fun part found => single name part found (inside part found)
  have list {name : String} (inside : MayHave name (IsListOf form) members) :
      MayHave name (IsListOf form') members := by
    rw [mayHave_listOf_iff] at inside ⊢
    exact ⟨inside.1, fun part member => item name part member (inside.2 part member)⟩
  cases given with
  | nominal kind id arguments marks => exact .nominal kind id (list arguments) marks
  | parameter kind name marks => exact .parameter kind name marks
  | function kind suspending receiver parameters result marks =>
    exact .function kind suspending (part receiver) (list parameters) (part result) marks
  | «alias» kind id arguments marks => exact .alias kind id (list arguments) marks

end Form

namespace TypeShape

open Check Validated Form

/-- The kind is stated as a text that is not empty. -/
theorem statedKind_eq_iff {kind : String} (named : kind ≠ "") {members : List (String × Json)} :
    statedKind members = kind ↔ HasKind kind members := by
  rw [statedKind, HasKind]
  split
  next other found => rw [found, Option.some.injEq, Json.string.injEq]
  next none => exact ⟨fun same => absurd same.symm named, fun found => absurd found (none kind)⟩

/-- Marks are accepted in their form. -/
theorem accepted_readMarks {members : List (String × Json)} :
    (readMarks members).Accepted ↔ HasMarks members := by
  rw [readMarks, accepted_also, accepted_map, accepted_optional, accepted_optional, accepts_flag,
    accepts_list, accepts_text]
  exact ⟨fun ⟨nullable, annotations⟩ => ⟨nullable, annotations⟩,
    fun marks => ⟨marks.nullable, marks.annotations⟩⟩

section

variable {inner : Json → Validated TypeShape} {members : List (String × Json)}

/-- What is accepted as a reference to a declaration. -/
theorem accepted_readKind_class :
    (readKind inner "class" members).Accepted ↔
      Has "declarationId" IsName members ∧
        MayHave "typeArguments" (IsListOf (Accepts inner)) members ∧ HasMarks members := by
  simp only [readKind, accepted_also, accepted_map, accepted_required, accepted_optional,
    accepted_readMarks, accepts_nonempty, accepts_list, and_assoc]

/-- What is accepted as a type parameter. -/
theorem accepted_readKind_parameter :
    (readKind inner "parameter" members).Accepted ↔
      Has "name" IsName members ∧ HasMarks members := by
  simp only [readKind, accepted_also, accepted_map, accepted_required, accepted_readMarks,
    accepts_nonempty]

/-- What is accepted as a function type. -/
theorem accepted_readKind_function :
    (readKind inner "function" members).Accepted ↔
      MayHave "suspending" IsFlag members ∧ MayHave "receiverType" (Accepts inner) members ∧
        MayHave "parameterTypes" (IsListOf (Accepts inner)) members ∧
        MayHave "returnType" (Accepts inner) members ∧ HasMarks members := by
  simp only [readKind, accepted_also, accepted_map, accepted_optional, accepted_readMarks,
    accepts_flag, accepts_list, and_assoc]

/-- What is accepted as a reference through an alias. -/
theorem accepted_readKind_alias :
    (readKind inner "alias" members).Accepted ↔
      Has "aliasId" IsName members ∧
        MayHave "typeArguments" (IsListOf (Accepts inner)) members ∧ HasMarks members := by
  simp only [readKind, accepted_also, accepted_map, accepted_required, accepted_optional,
    accepted_readMarks, accepts_nonempty, accepts_list, and_assoc]

/-- Nothing is accepted as a reference of another kind. -/
theorem readKind_accepted {kind : String} (accepted : (readKind inner kind members).Accepted) :
    kind = "class" ∨ kind = "parameter" ∨ kind = "function" ∨ kind = "alias" := by
  unfold readKind at accepted
  split at accepted
  · exact .inl rfl
  · exact .inr (.inl rfl)
  · exact .inr (.inr (.inl rfl))
  · exact .inr (.inr (.inr rfl))
  · exact absurd (accepted_under.mp accepted) (not_accepted_invalid _ _)

end

/-- Members are accepted in the form of their kind, what is inside them in the form that the inner
reader accepts. -/
theorem accepted_readKind_iff {inner : Json → Validated TypeShape}
    {members : List (String × Json)} :
    (readKind inner (statedKind members) members).Accepted ↔ KindForm (Accepts inner) members := by
  constructor
  · intro accepted
    rcases readKind_accepted accepted with kind | kind | kind | kind
    all_goals
      have stated := (statedKind_eq_iff (by decide)).mp kind
      rw [kind] at accepted
    · obtain ⟨id, arguments, marks⟩ := accepted_readKind_class.mp accepted
      exact .nominal stated id arguments marks
    · obtain ⟨name, marks⟩ := accepted_readKind_parameter.mp accepted
      exact .parameter stated name marks
    · obtain ⟨suspending, receiver, parameters, result, marks⟩ :=
        accepted_readKind_function.mp accepted
      exact .function stated suspending receiver parameters result marks
    · obtain ⟨id, arguments, marks⟩ := accepted_readKind_alias.mp accepted
      exact .alias stated id arguments marks
  · intro form
    cases form with
    | nominal kind id arguments marks =>
      rw [(statedKind_eq_iff (by decide)).mpr kind]
      exact accepted_readKind_class.mpr ⟨id, arguments, marks⟩
    | parameter kind name marks =>
      rw [(statedKind_eq_iff (by decide)).mpr kind]
      exact accepted_readKind_parameter.mpr ⟨name, marks⟩
    | function kind suspending receiver parameters result marks =>
      rw [(statedKind_eq_iff (by decide)).mpr kind]
      exact accepted_readKind_function.mpr ⟨suspending, receiver, parameters, result, marks⟩
    | «alias» kind id arguments marks =>
      rw [(statedKind_eq_iff (by decide)).mpr kind]
      exact accepted_readKind_alias.mpr ⟨id, arguments, marks⟩

/-- With one more level for the object itself, an object is accepted if its members are. -/
theorem accepts_readWithin_object {depth : Nat} {members : List (String × Json)} :
    Accepts (readWithin (depth + 1)) (.object members) ↔
      KindForm (Accepts (readWithin depth)) members :=
  accepted_readKind_iff

/-- With at least its levels as the bound, a document is accepted if it is a type reference. -/
theorem accepts_readWithin {depth : Nat} {document : Json} (bound : document.depth ≤ depth) :
    Accepts (readWithin depth) document ↔ IsType document := by
  induction depth generalizing document with
  | zero => cases document <;> simp [Json.depth] at bound
  | succ depth ih =>
    rcases document with _ | _ | _ | _ | _ | members
    case object =>
      -- The object takes one level of the bound, which leaves enough for what is inside it.
      have below : Json.membersDepth members ≤ depth := Nat.le_of_succ_le_succ bound
      have single (name : String) (part : Json) (found : Table.get? name members = some part) :
          Accepts (readWithin depth) part ↔ IsType part :=
        ih ((Json.depth_le_membersDepth found).trans below)
      have item (name : String) (part : Json) (inside : IsItemOf name members part) :
          Accepts (readWithin depth) part ↔ IsType part := by
        obtain ⟨items, found, member⟩ := inside
        exact ih ((Json.depth_lt_membersDepth found member).le.trans below)
      rw [accepts_readWithin_object, isType_object_iff]
      constructor
      · exact KindForm.imp (fun name part found => (single name part found).mp)
          fun name part inside => (item name part inside).mp
      · exact KindForm.imp (fun name part found => (single name part found).mpr)
          fun name part inside => (item name part inside).mpr
    all_goals exact ⟨fun ⟨_, wrong⟩ => (nomatch wrong), nofun⟩

/-- The documents accepted as type references are those that the grammar derives. -/
theorem accepts_read : Accepts TypeShape.read = IsType := by
  funext document
  exact propext (accepts_readWithin (Nat.le_refl document.depth))

end TypeShape

end StableTypes
