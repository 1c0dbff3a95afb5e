import StableTypes.TypeRef.Basic
import StableTypes.Validation

/-!
# Written type references

A type reference as a document holds it: flags, annotations, arguments, receiver
and result may be left out. Reading checks the document and keeps what it states;
completion fills in what is left out. A completed reference has a shape that
states everything.
-/

namespace StableTypes

/-- The marks that a document states. -/
structure MarksShape where
  /-- The nullability, if stated. -/
  nullable : Option Bool := none
  /-- The annotations, if stated. -/
  annotations : Option (List String) := none
deriving DecidableEq, Inhabited

/-- A type reference as a document states it. -/
inductive TypeShape where
  /-- A reference to a declaration. -/
  | nominal (declarationId : String) (arguments : Option (List TypeShape)) (marks : MarksShape)
  /-- A type parameter. -/
  | parameter (name : String) (marks : MarksShape)
  /-- A function type. -/
  | function (suspending : Option Bool) (receiver : Option TypeShape)
      (parameters : Option (List TypeShape)) (result : Option TypeShape) (marks : MarksShape)
  /-- A reference through an alias. -/
  | alias (aliasId : String) (arguments : Option (List TypeShape)) (marks : MarksShape)
deriving Inhabited

/-- The marks stated, completed. -/
def MarksShape.complete (marks : MarksShape) : Marks :=
  ⟨marks.nullable.getD false, marks.annotations.getD []⟩

/-- The shape that states given marks. -/
def MarksShape.ofMarks (marks : Marks) : MarksShape :=
  ⟨some marks.nullable, some marks.annotations⟩

namespace TypeShape

mutual

/-- The type reference that a shape stands for. -/
def complete : TypeShape → TypeRef
  | .nominal declarationId arguments marks =>
    .nominal declarationId (completeAll arguments) marks.complete
  | .parameter name marks => .parameter name marks.complete
  | .function suspending receiver parameters result marks =>
    .function (suspending.getD false) (completeReceiver receiver) (completeAll parameters)
      (completeResult result) marks.complete
  | .alias aliasId arguments marks => .alias aliasId (completeAll arguments) marks.complete
termination_by structural shape => shape

/-- A list that may be left out, completed; without a list there are no items. -/
def completeAll : Option (List TypeShape) → List TypeRef
  | none => []
  | some shapes => completeEach shapes
termination_by structural shapes => shapes

/-- The items of a list, completed. -/
def completeEach : List TypeShape → List TypeRef
  | [] => []
  | shape :: shapes => complete shape :: completeEach shapes
termination_by structural shapes => shapes

/-- A receiver that may be left out, completed. -/
def completeReceiver : Option TypeShape → Option TypeRef
  | none => none
  | some shape => some (complete shape)
termination_by structural shape => shape

/-- A result that may be left out, completed by the unit type. -/
def completeResult : Option TypeShape → TypeRef
  | none => .nominal "kotlin.Unit" [] {}
  | some shape => complete shape
termination_by structural shape => shape

end

mutual

/-- The shape that states every part of a reference. -/
def ofTypeRef : TypeRef → TypeShape
  | .nominal declarationId arguments marks =>
    .nominal declarationId (some (ofTypeRefs arguments)) (.ofMarks marks)
  | .parameter name marks => .parameter name (.ofMarks marks)
  | .function suspending receiver parameters result marks =>
    .function (some suspending) (ofReceiver receiver) (some (ofTypeRefs parameters))
      (some (ofTypeRef result)) (.ofMarks marks)
  | .alias aliasId arguments marks => .alias aliasId (some (ofTypeRefs arguments)) (.ofMarks marks)
termination_by structural type => type

/-- The shapes of a list of references. -/
def ofTypeRefs : List TypeRef → List TypeShape
  | [] => []
  | type :: types => ofTypeRef type :: ofTypeRefs types
termination_by structural types => types

/-- The shape of a receiver. -/
def ofReceiver : Option TypeRef → Option TypeShape
  | none => none
  | some type => some (ofTypeRef type)
termination_by structural type => type

end

/-- The marks as members of a document. -/
def marksMembers (marks : MarksShape) : List (String × Json) :=
  Json.optional "nullable" (marks.nullable.map .bool)
    ++ Json.optional "annotations" (marks.annotations.map Json.strings)

mutual

/-- A shape as a document that holds what the shape states. -/
def toJson : TypeShape → Json
  | .nominal declarationId arguments marks =>
    .object ([("kind", .string "class"), ("declarationId", .string declarationId)]
      ++ listMember "typeArguments" arguments ++ marksMembers marks)
  | .parameter name marks =>
    .object ([("kind", .string "parameter"), ("name", .string name)] ++ marksMembers marks)
  | .function suspending receiver parameters result marks =>
    .object ([("kind", .string "function")]
      ++ Json.optional "suspending" (suspending.map .bool)
      ++ typeMember "receiverType" receiver
      ++ listMember "parameterTypes" parameters
      ++ typeMember "returnType" result ++ marksMembers marks)
  | .alias aliasId arguments marks =>
    .object ([("kind", .string "alias"), ("aliasId", .string aliasId)]
      ++ listMember "typeArguments" arguments ++ marksMembers marks)
termination_by structural shape => shape

/-- A list that may be left out, as a member. -/
def listMember (name : String) : Option (List TypeShape) → List (String × Json)
  | none => []
  | some shapes => [(name, .array (toJsons shapes))]
termination_by structural shapes => shapes

/-- Shapes as documents. -/
def toJsons : List TypeShape → List Json
  | [] => []
  | shape :: shapes => toJson shape :: toJsons shapes
termination_by structural shapes => shapes

/-- A type that may be left out, as a member. -/
def typeMember (name : String) : Option TypeShape → List (String × Json)
  | none => []
  | some shape => [(name, toJson shape)]
termination_by structural shape => shape

end

/-- Reads the marks of a reference. -/
def readMarks (members : List (String × Json)) : Validated MarksShape :=
  ((Check.optional "nullable" Check.flag members).map MarksShape.mk).also
    (Check.optional "annotations" (Check.list Check.text) members)

/-- Reads the members of a reference of a known kind, references inside it with
the reader given. -/
def readKind (inner : Json → Validated TypeShape) (kind : String)
    (members : List (String × Json)) : Validated TypeShape :=
  match kind with
  | "class" =>
    (((Check.required "declarationId" Check.nonempty members).map TypeShape.nominal).also
      (Check.optional "typeArguments" (Check.list inner) members)).also
      (readMarks members)
  | "parameter" =>
    ((Check.required "name" Check.nonempty members).map TypeShape.parameter).also
      (readMarks members)
  | "function" =>
    (((((Check.optional "suspending" Check.flag members).map TypeShape.function).also
      (Check.optional "receiverType" inner members)).also
      (Check.optional "parameterTypes" (Check.list inner) members)).also
      (Check.optional "returnType" inner members)).also
      (readMarks members)
  | "alias" =>
    (((Check.required "aliasId" Check.nonempty members).map TypeShape.alias).also
      (Check.optional "typeArguments" (Check.list inner) members)).also
      (readMarks members)
  | _ => (Validated.fail
      "Invalid discriminator value. Expected 'class' | 'parameter' | 'function' | 'alias'").under
      "kind"

/-- The kind that the members of a reference state; no kind has the empty name. -/
def statedKind (members : List (String × Json)) : String :=
  match Table.get? "kind" members with
  | some (.string kind) => kind
  | _ => ""

/-- Reads a reference whose nesting is below `depth`. -/
def readWithin : (depth : Nat) → Json → Validated TypeShape
  | 0, _ => .fail "Nested too deeply"
  | depth + 1, document =>
    Check.object (fun members => readKind (readWithin depth) (statedKind members) members) document

end TypeShape

/-- Reads a type reference. A reference inside it lies deeper in the document, so
the levels of the document bound the recursion. -/
def TypeShape.read (document : Json) : Validated TypeShape := readWithin document.depth document

/-- A type reference as a document that states every part of it. -/
def TypeRef.toJson (type : TypeRef) : Json := (TypeShape.ofTypeRef type).toJson

end StableTypes
