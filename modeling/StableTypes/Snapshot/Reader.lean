import StableTypes.Json.Parser
import StableTypes.Snapshot.Basic

/-!
# Reading snapshots

A document is a snapshot if it states the declarations and everything it states
has the right form. Lists, kinds and modalities that are left out get their
default. Members with other names are passed over.
-/

namespace StableTypes

open Check

/-- Reads a property. -/
def PropertyShape.read : Json → Validated PropertyShape :=
  object fun members =>
    (((required "name" nonempty members).map PropertyShape.mk).also
      (required "type" TypeShape.read members)).also
      (defaulted "mutable" flag false members)

/-- Reads a qualified name, which may be null. -/
def StatedName.read : Json → Validated StatedName
  | .null => .valid .absent
  | document => (text document).map .given

/-- Reads the record of a previous compilation. -/
def readInferred : Json → Validated Nat := object (required "parameters" count)

/-- Reads a declaration. -/
def DeclarationShape.read : Json → Validated DeclarationShape :=
  object fun members =>
    ((((((((((required "id" nonempty members).map DeclarationShape.mk).also
      (defaulted "qualifiedName" StatedName.read .unstated members)).also
      (optional "simpleName" text members)).also
      (defaulted "kind" (oneOf ClassKind.names) .plain members)).also
      (defaulted "modality" (oneOf Modality.names) .final members)).also
      (defaulted "properties" (list PropertyShape.read) [] members)).also
      (defaulted "supertypes" (list TypeShape.read) [] members)).also
      (defaulted "annotations" (list text) [] members)).also
      (optional "wrappedProperty" text members)).also
      (optional "inferredStability" readInferred members)

/-- Reads an alias. -/
def AliasShape.read : Json → Validated AliasShape :=
  object fun members =>
    (((required "id" nonempty members).map AliasShape.mk).also
      (defaulted "typeParameters" (list text) [] members)).also
      (required "target" TypeShape.read members)

/-- Reads a parameter of a callable. -/
def ParameterShape.read : Json → Validated ParameterShape :=
  object fun members =>
    ((required "name" nonempty members).map ParameterShape.mk).also
      (required "type" TypeShape.read members)

/-- Reads a receiver of a callable. -/
def ReceiverShape.read : Json → Validated ReceiverShape :=
  object fun members =>
    ((required "kind" (oneOf ReceiverKind.names) members).map ReceiverShape.mk).also
      (required "type" TypeShape.read members)

/-- Reads a callable. -/
def CallableShape.read : Json → Validated CallableShape :=
  object fun members =>
    (((((((required "id" nonempty members).map CallableShape.mk).also
      (optional "name" text members)).also
      (optional "qualifiedName" text members)).also
      (defaulted "parameters" (list ParameterShape.read) [] members)).also
      (defaulted "receivers" (list ReceiverShape.read) [] members)).also
      (defaulted "annotations" (list text) [] members)).also
      (defaulted "callees" (list text) [] members)

namespace Snapshot

/-- Reads a snapshot. -/
def read : Json → Validated Snapshot :=
  object fun members =>
    (((required "declarations" (list DeclarationShape.read) members).map Snapshot.mk).also
      (defaulted "aliases" (list AliasShape.read) [] members)).also
      (defaulted "callables" (list CallableShape.read) [] members)

/-- Why there is no snapshot. -/
inductive Failure where
  /-- The text is no document. -/
  | notJson (path : String)
  /-- The document is no snapshot. -/
  | invalid (first : Issue) (others : List Issue)

/-- The lines of the issues. -/
def Failure.issues : Failure → List String
  | .notJson _ => []
  | .invalid first others => (first :: others).map Issue.text

/-- What is wrong, in one line. -/
def Failure.message : Failure → String
  | .notJson path => s!"Snapshot {path} is not valid JSON"
  | .invalid first others =>
    "Invalid model snapshot: " ++ "; ".intercalate ((first :: others).map Issue.text)

/-- The snapshot of a document that may be missing. -/
def ofDocument (document : Option Json) : Except Failure Snapshot :=
  match present read document with
  | .valid snapshot => .ok snapshot
  | .invalid first others => .error (.invalid first others)

/-- The snapshot in the text of a file, which is named by its path. -/
def ofText (path text : String) : Except Failure Snapshot :=
  match Json.parse? text with
  | some document => ofDocument (some document)
  | none => .error (.notJson path)

end Snapshot

end StableTypes
