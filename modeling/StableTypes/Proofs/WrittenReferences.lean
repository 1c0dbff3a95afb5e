import StableTypes.Proofs.ReferenceGrammar

/-!
# Writing type references and reading them back

A shape is read from a document if the document states each of its parts. What was read has a name
wherever a name is asked for, and every shape of that kind is read back from the document that is
written of it. The same holds of a reference that was completed: its document states every part of
it, and completing that changes nothing more.
-/

namespace StableTypes

namespace Table

variable {α : Type}

/-- In two tables, one behind the other, the first one with an answer counts. -/
theorem get?_append (name : String) (table table' : Table α) :
    get? name (table ++ table') = (get? name table).or (get? name table') := by
  induction table with
  | nil => rfl
  | cons entry rest ih =>
    obtain ⟨other, value⟩ := entry
    rw [List.cons_append, get?, get?, ih]
    split <;> rfl

/-- A member that is written only if it has a value is found under its name then. -/
theorem get?_optional (name other : String) (value : Option Json) :
    get? name (Json.optional other value) = if other = name then value else none := by
  cases value <;> simp [Json.optional, get?]

end Table

namespace TypeShape

open Check Validated Form

/-- Shapes as documents, one by one. -/
theorem toJsons_eq_map (shapes : List TypeShape) : toJsons shapes = shapes.map toJson := by
  induction shapes with
  | nil => rfl
  | cons shape shapes ih => rw [toJsons, ih, List.map_cons]

/-- A list as a member that may be left out. -/
theorem listMember_eq (name : String) (shapes : Option (List TypeShape)) :
    listMember name shapes =
      Json.optional name (shapes.map fun shapes => .array (shapes.map toJson)) := by
  cases shapes with
  | none => rfl
  | some shapes => rw [listMember, toJsons_eq_map]; rfl

/-- A type as a member that may be left out. -/
theorem typeMember_eq (name : String) (shape : Option TypeShape) :
    typeMember name shape = Json.optional name (shape.map toJson) := by
  cases shape <;> rfl

/-- The members of an object state the parts of a shape. -/
inductive StatedBy (inner : Json → Validated TypeShape) (members : List (String × Json)) :
    TypeShape → Prop
  /-- A reference to a declaration. -/
  | nominal {id : String} {arguments : Option (List TypeShape)} {marks : MarksShape}
      (kind : HasKind "class" members)
      (stated : required "declarationId" nonempty members = .valid id)
      (list : optional "typeArguments" (Check.list inner) members = .valid arguments)
      (marked : readMarks members = .valid marks) :
      StatedBy inner members (.nominal id arguments marks)
  /-- A type parameter. -/
  | parameter {name : String} {marks : MarksShape} (kind : HasKind "parameter" members)
      (stated : required "name" nonempty members = .valid name)
      (marked : readMarks members = .valid marks) : StatedBy inner members (.parameter name marks)
  /-- A function type. -/
  | function {suspending : Option Bool} {receiver : Option TypeShape}
      {parameters : Option (List TypeShape)} {result : Option TypeShape} {marks : MarksShape}
      (kind : HasKind "function" members)
      (suspends : optional "suspending" flag members = .valid suspending)
      (received : optional "receiverType" inner members = .valid receiver)
      (list : optional "parameterTypes" (Check.list inner) members = .valid parameters)
      (returned : optional "returnType" inner members = .valid result)
      (marked : readMarks members = .valid marks) :
      StatedBy inner members (.function suspending receiver parameters result marks)
  /-- A reference through an alias. -/
  | alias {id : String} {arguments : Option (List TypeShape)} {marks : MarksShape}
      (kind : HasKind "alias" members)
      (stated : required "aliasId" nonempty members = .valid id)
      (list : optional "typeArguments" (Check.list inner) members = .valid arguments)
      (marked : readMarks members = .valid marks) :
      StatedBy inner members (.alias id arguments marks)

/-- A shape is read from the members that state its parts. -/
theorem readKind_eq_valid_iff {inner : Json → Validated TypeShape} {members : List (String × Json)}
    {shape : TypeShape} :
    readKind inner (statedKind members) members = .valid shape ↔ StatedBy inner members shape := by
  constructor
  · intro valid
    have accepted : (readKind inner (statedKind members) members).Accepted := ⟨shape, valid⟩
    rcases readKind_accepted accepted with kind | kind | kind | kind
    all_goals
      have named := (statedKind_eq_iff (by decide)).mp kind
      rw [kind] at valid
      simp only [readKind, also_eq_valid_iff, map_eq_valid_iff] at valid
    · obtain ⟨_, marks, ⟨_, arguments, ⟨id, stated, rfl⟩, list, rfl⟩, marked, rfl⟩ := valid
      exact .nominal named stated list marked
    · obtain ⟨_, marks, ⟨name, stated, rfl⟩, marked, rfl⟩ := valid
      exact .parameter named stated marked
    · obtain ⟨_, marks, ⟨_, result, ⟨_, parameters, ⟨_, receiver, ⟨suspending, suspends, rfl⟩,
        received, rfl⟩, list, rfl⟩, returned, rfl⟩, marked, rfl⟩ := valid
      exact .function named suspends received list returned marked
    · obtain ⟨_, marks, ⟨_, arguments, ⟨id, stated, rfl⟩, list, rfl⟩, marked, rfl⟩ := valid
      exact .alias named stated list marked
  · intro stated
    cases stated with
    | nominal kind stated list marked =>
      rw [(statedKind_eq_iff (by decide)).mpr kind]
      simp only [readKind, stated, list, marked, map, also]
    | parameter kind stated marked =>
      rw [(statedKind_eq_iff (by decide)).mpr kind]
      simp only [readKind, stated, marked, map, also]
    | function kind suspends received list returned marked =>
      rw [(statedKind_eq_iff (by decide)).mpr kind]
      simp only [readKind, suspends, received, list, returned, marked, map, also]
    | «alias» kind stated list marked =>
      rw [(statedKind_eq_iff (by decide)).mpr kind]
      simp only [readKind, stated, list, marked, map, also]

/-- What is read with a bound is stated by the members of an object, the parts with a smaller
bound. -/
theorem readWithin_eq_valid_iff {depth : Nat} {document : Json} {shape : TypeShape} :
    readWithin (depth + 1) document = .valid shape ↔
      ∃ members, document = .object members ∧ StatedBy (readWithin depth) members shape := by
  rw [readWithin, object_eq_valid_iff]
  simp only [readKind_eq_valid_iff]

/-- Nothing that must have a name has the empty one. -/
inductive Named : TypeShape → Prop
  /-- A reference to a declaration. -/
  | nominal {id : String} {arguments : Option (List TypeShape)} {marks : MarksShape}
      (named : id ≠ "") (each : ∀ shapes ∈ arguments, ∀ shape ∈ shapes, Named shape) :
      Named (.nominal id arguments marks)
  /-- A type parameter. -/
  | parameter {name : String} {marks : MarksShape} (named : name ≠ "") :
      Named (.parameter name marks)
  /-- A function type. -/
  | function {suspending : Option Bool} {receiver : Option TypeShape}
      {parameters : Option (List TypeShape)} {result : Option TypeShape} {marks : MarksShape}
      (received : ∀ shape ∈ receiver, Named shape)
      (each : ∀ shapes ∈ parameters, ∀ shape ∈ shapes, Named shape)
      (returned : ∀ shape ∈ result, Named shape) :
      Named (.function suspending receiver parameters result marks)
  /-- A reference through an alias. -/
  | alias {id : String} {arguments : Option (List TypeShape)} {marks : MarksShape}
      (named : id ≠ "") (each : ∀ shapes ∈ arguments, ∀ shape ∈ shapes, Named shape) :
      Named (.alias id arguments marks)

/-- What was read is named. -/
theorem named_of_readWithin {depth : Nat} {document : Json} {shape : TypeShape}
    (valid : readWithin depth document = .valid shape) : shape.Named := by
  induction depth generalizing document shape with
  | zero => cases valid
  | succ depth ih =>
    obtain ⟨members, rfl, stated⟩ := readWithin_eq_valid_iff.mp valid
    have single {name : String} {part : Option TypeShape}
        (stated : optional name (readWithin depth) members = .valid part) :
        ∀ shape ∈ part, shape.Named := by
      intro shape given
      obtain ⟨document, valid⟩ := exists_document_of_mem stated given
      exact ih valid
    have list {name : String} {parts : Option (List TypeShape)}
        (stated : optional name (Check.list (readWithin depth)) members = .valid parts) :
        ∀ shapes ∈ parts, ∀ shape ∈ shapes, shape.Named := by
      intro shapes given shape member
      obtain ⟨document, valid⟩ := exists_document_of_mem stated given
      obtain ⟨item, valid⟩ := exists_item_of_mem valid member
      exact ih valid
    cases stated with
    | nominal kind stated arguments marked =>
      exact .nominal (ne_empty_of_required stated) (list arguments)
    | parameter kind stated marked => exact .parameter (ne_empty_of_required stated)
    | function kind suspends received parameters returned marked =>
      exact .function (single received) (list parameters) (single returned)
    | «alias» kind stated arguments marked =>
      exact .alias (ne_empty_of_required stated) (list arguments)

/-- Marks are read back from members among which they stand. -/
theorem readMarks_eq_valid {members : List (String × Json)} {marks : MarksShape}
    (nullable : Table.get? "nullable" members = marks.nullable.map .bool)
    (annotations : Table.get? "annotations" members = marks.annotations.map Json.strings) :
    readMarks members = .valid marks := by
  rw [readMarks, optional_flag_eq_valid nullable,
    optional_eq_valid annotations fun texts _ => list_strings_eq_valid texts]
  rfl

/-- What the members of an object state is read from the object. -/
theorem readWithin_of_statedBy {depth : Nat} {members : List (String × Json)} {shape : TypeShape}
    (bound : (Json.object members).depth ≤ depth)
    (stated : ∀ {depth}, Json.membersDepth members ≤ depth →
      StatedBy (readWithin depth) members shape) :
    readWithin depth (.object members) = .valid shape := by
  cases depth with
  | zero => exact absurd bound (Nat.not_succ_le_zero _)
  | succ depth =>
    exact readWithin_eq_valid_iff.mpr ⟨members, rfl, stated (Nat.le_of_succ_le_succ bound)⟩

/-- A shape is read back from its document, whatever the bound above the levels of that. -/
def ReadBack (shape : TypeShape) : Prop :=
  ∀ {depth}, shape.toJson.depth ≤ depth → readWithin depth shape.toJson = .valid shape

section

variable {depth : Nat} {members : List (String × Json)} {name : String}

/-- A part is read back where it stands. -/
theorem optional_readBack (below : Json.membersDepth members ≤ depth) {part : Option TypeShape}
    (found : Table.get? name members = part.map toJson) (back : ∀ shape ∈ part, shape.ReadBack) :
    optional name (readWithin depth) members = .valid part := by
  refine optional_eq_valid found fun shape given => back shape given ?_
  rw [Option.mem_def.mp given] at found
  exact (Json.depth_le_membersDepth found).trans below

/-- A list of parts is read back where it stands. -/
theorem optional_list_readBack (below : Json.membersDepth members ≤ depth)
    {parts : Option (List TypeShape)}
    (found : Table.get? name members = parts.map fun shapes => .array (shapes.map toJson))
    (back : ∀ shapes ∈ parts, ∀ shape ∈ shapes, shape.ReadBack) :
    optional name (Check.list (readWithin depth)) members = .valid parts := by
  refine optional_eq_valid found fun shapes given => list_map_eq_valid fun shape member => ?_
  rw [Option.mem_def.mp given] at found
  refine back shapes given shape member ?_
  exact (Json.depth_lt_membersDepth found (List.mem_map_of_mem member)).le.trans below

end

/-- A named shape is read back from the document that is written of it. -/
theorem readBack_of_named {shape : TypeShape} (named : shape.Named) : shape.ReadBack := by
  induction named with
  | nominal named each ih =>
    intro depth bound
    rw [toJson] at bound ⊢
    refine readWithin_of_statedBy bound fun below => .nominal rfl
      (required_eq_valid rfl (nonempty_eq_valid_iff.mpr ⟨named, rfl⟩))
      (optional_list_readBack below ?_ ih) (readMarks_eq_valid ?_ ?_)
    -- The members stand under different names, so each is found where it was written.
    all_goals
      simp [listMember_eq, marksMembers, Table.get?_append, Table.get?_optional, Table.get?]
  | parameter named =>
    intro depth bound
    rw [toJson] at bound ⊢
    refine readWithin_of_statedBy bound fun _ => .parameter rfl
      (required_eq_valid rfl (nonempty_eq_valid_iff.mpr ⟨named, rfl⟩)) (readMarks_eq_valid ?_ ?_)
    all_goals
      simp [marksMembers, Table.get?_append, Table.get?_optional, Table.get?]
  | function received each returned ihReceiver ihParameters ihResult =>
    intro depth bound
    rw [toJson] at bound ⊢
    refine readWithin_of_statedBy bound fun below => .function rfl
      (optional_flag_eq_valid ?_) (optional_readBack below ?_ ihReceiver)
      (optional_list_readBack below ?_ ihParameters) (optional_readBack below ?_ ihResult)
      (readMarks_eq_valid ?_ ?_)
    all_goals
      simp [listMember_eq, typeMember_eq, marksMembers, Table.get?_append, Table.get?_optional,
        Table.get?]
  | «alias» named each ih =>
    intro depth bound
    rw [toJson] at bound ⊢
    refine readWithin_of_statedBy bound fun below => .alias rfl
      (required_eq_valid rfl (nonempty_eq_valid_iff.mpr ⟨named, rfl⟩))
      (optional_list_readBack below ?_ ih) (readMarks_eq_valid ?_ ?_)
    all_goals
      simp [listMember_eq, marksMembers, Table.get?_append, Table.get?_optional, Table.get?]

/-- A named shape is read back. -/
theorem read_toJson {shape : TypeShape} (named : shape.Named) :
    TypeShape.read shape.toJson = .valid shape :=
  readBack_of_named named (Nat.le_refl _)

/-- What was read is named. -/
theorem named_of_read {document : Json} {shape : TypeShape}
    (valid : TypeShape.read document = .valid shape) : shape.Named :=
  named_of_readWithin valid

end TypeShape

end StableTypes
