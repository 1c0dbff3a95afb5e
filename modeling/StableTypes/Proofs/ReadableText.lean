import StableTypes.Proofs.TypeGraph

/-!
# Types with a readable text

The text of a type puts names, annotations and marks behind each other without quoting them. It can
be read in one way where no name has a character that means something else, each name is a name
of one kind, and a receiver does not run into the function around it: the arrow of a function type
reaches as far to the right as it can, and an annotation in front counts for the whole function.
Here are these conditions, and the text as a list of characters, piece by piece.
-/

namespace StableTypes

/-- What a name is a name of. -/
inductive NameKind where
  /-- A declaration. -/
  | declaration
  /-- A type parameter. -/
  | parameter
  /-- An alias. -/
  | abbreviation
deriving DecidableEq

namespace TypeRef

/-- The character has no meaning of its own in the text of a type. -/
def isNameChar (c : Char) : Bool := !"<>,?@() ".toList.contains c

/-- The text can be told apart from what stands around it. -/
def isName (name : String) : Bool := name ≠ "" && name.toList.all isNameChar

/-- No annotation has a space in it. -/
def areAnnotations (annotations : List String) : Bool :=
  annotations.all fun note => !note.toList.contains ' '

/-- A function type without parentheses around it. -/
def isBare (type : TypeRef) : Bool := type.isFunction && !type.nullable

/-- A reference by name of the given kind; a parameter has no arguments. -/
def named (kind : NameKind) (name : String) (arguments : List TypeRef) (marks : Marks) : TypeRef :=
  match kind with
  | .declaration => .nominal name arguments marks
  | .parameter => .parameter name marks
  | .abbreviation => .alias name arguments marks

mutual

/-- The text of a type can be read in one way. -/
def isReadable (kinds : String → NameKind) : TypeRef → Bool
  | .nominal declarationId arguments marks =>
    kinds declarationId = .declaration && isName declarationId && areAnnotations marks.annotations
      && areReadable kinds arguments
  | .parameter name marks =>
    kinds name = .parameter && isName name && areAnnotations marks.annotations
  | .function suspending receiver parameters result marks =>
    areAnnotations marks.annotations && isReadableReceiver kinds suspending receiver
      && areReadable kinds parameters && isReadable kinds result
  | .alias aliasId arguments marks =>
    kinds aliasId = .abbreviation && isName aliasId && areAnnotations marks.annotations
      && areReadable kinds arguments
termination_by structural type => type

/-- The texts of all types can be read in one way. -/
def areReadable (kinds : String → NameKind) : List TypeRef → Bool
  | [] => true
  | type :: types => isReadable kinds type && areReadable kinds types
termination_by structural types => types

/-- The text of a receiver can be read in one way in front of its function. -/
def isReadableReceiver (kinds : String → NameKind) (suspending : Bool) : Option TypeRef → Bool
  | none => true
  | some receiver => isReadable kinds receiver && !receiver.isBare
    && (suspending || receiver.annotations.isEmpty)
termination_by structural receiver => receiver

end

/-- All types of a list are readable exactly if each one is. -/
theorem areReadable_iff {kinds : String → NameKind} {types : List TypeRef} :
    areReadable kinds types = true ↔ ∀ type ∈ types, type.isReadable kinds = true := by
  induction types with
  | nil => simp [areReadable]
  | cons type types ih => simp [areReadable, ih]

/-- The receiver of a readable function type is readable, has parentheses around it if it is a
function type itself, and annotations only behind the word for suspending. -/
theorem of_isReadableReceiver {kinds : String → NameKind} {suspending : Bool} {receiver : TypeRef}
    (h : isReadableReceiver kinds suspending (some receiver) = true) :
    receiver.isReadable kinds = true ∧ receiver.isBare = false ∧
      (suspending = false → receiver.annotations = []) := by
  simp only [isReadableReceiver, Bool.and_eq_true, Bool.or_eq_true, Bool.not_eq_true',
    List.isEmpty_iff] at h
  obtain ⟨⟨readable, bare⟩, annotated⟩ := h
  refine ⟨readable, bare, fun plain => ?_⟩
  simpa [plain] using annotated

/-- The parts of a function type are readable. -/
structure ReadableParts (kinds : String → NameKind) (suspending : Bool)
    (receiver : Option TypeRef) (parameters : List TypeRef) (result : TypeRef) : Prop where
  /-- The receiver is readable in front of the function. -/
  receiver : isReadableReceiver kinds suspending receiver = true
  /-- The types of the parameters are readable. -/
  parameters : ∀ parameter ∈ parameters, parameter.isReadable kinds = true
  /-- The result is readable. -/
  result : result.isReadable kinds = true

/-- The forms of readable types without annotations. -/
inductive Reading (kinds : String → NameKind) : TypeRef → Prop
  /-- A reference by name. -/
  | byName {name : String} {arguments : List TypeRef} (nullable : Bool) : isName name = true →
      (kinds name = .parameter → arguments = []) →
      (∀ argument ∈ arguments, argument.isReadable kinds = true) →
      Reading kinds (named (kinds name) name arguments ⟨nullable, []⟩)
  /-- A function type without parentheses around it. -/
  | bare {suspending : Bool} {receiver : Option TypeRef} {parameters : List TypeRef}
      {result : TypeRef} : ReadableParts kinds suspending receiver parameters result →
      Reading kinds (.function suspending receiver parameters result ⟨false, []⟩)
  /-- A function type in parentheses. -/
  | enclosed {suspending : Bool} {receiver : Option TypeRef} {parameters : List TypeRef}
      {result : TypeRef} : ReadableParts kinds suspending receiver parameters result →
      Reading kinds (.function suspending receiver parameters result ⟨true, []⟩)

/-- A function type with readable parts and without annotations is readable. -/
theorem ReadableParts.isReadable {kinds : String → NameKind} {suspending : Bool}
    {receiver : Option TypeRef} {parameters : List TypeRef} {result : TypeRef}
    (parts : ReadableParts kinds suspending receiver parameters result) (nullable : Bool) :
    isReadable kinds (.function suspending receiver parameters result ⟨nullable, []⟩) = true := by
  simp only [TypeRef.isReadable, areAnnotations, List.all_nil, Bool.true_and, Bool.and_eq_true,
    areReadable_iff]
  exact ⟨⟨parts.receiver, parts.parameters⟩, parts.result⟩

/-- What has a readable form is readable. -/
theorem Reading.isReadable {kinds : String → NameKind} {type : TypeRef}
    (reading : Reading kinds type) : type.isReadable kinds = true := by
  cases reading with
  | @byName name arguments nullable spelled alone inside =>
    cases kind : kinds name with
    | declaration =>
      simpa [TypeRef.isReadable, named, kind, spelled, areAnnotations, areReadable_iff]
    | parameter => simp [TypeRef.isReadable, named, kind, spelled, areAnnotations]
    | abbreviation =>
      simpa [TypeRef.isReadable, named, kind, spelled, areAnnotations, areReadable_iff]
  | bare parts => exact parts.isReadable false
  | enclosed parts => exact parts.isReadable true

/-- The same use without annotations. -/
def unannotated (type : TypeRef) : TypeRef := type.withMarks ⟨type.nullable, []⟩

/-- A use that has no annotations stays as it is without them. -/
theorem unannotated_of_plain {type : TypeRef} (plain : type.annotations = []) :
    type.unannotated = type := by
  have marks : (⟨type.nullable, []⟩ : Marks) = type.marks := by rw [← plain]; rfl
  rw [unannotated, marks]
  cases type <;> rfl

/-- A use is determined by its annotations and the use without them. -/
theorem eq_of_unannotated {type type' : TypeRef}
    (annotations : type.annotations = type'.annotations)
    (rest : type.unannotated = type'.unannotated) : type = type' := by
  have restored (type : TypeRef) :
      type.unannotated.withMarks ⟨type.unannotated.nullable, type.annotations⟩ = type := by
    cases type <;> rfl
  rw [← restored type, rest, annotations, restored type']

/-- A type is in parentheses or not also without its annotations. -/
@[simp] theorem isBare_unannotated (type : TypeRef) : type.unannotated.isBare = type.isBare := by
  cases type <;> rfl

/-- A reference by name is no function type. -/
@[simp] theorem isBare_named (kind : NameKind) (name : String) (arguments : List TypeRef)
    (marks : Marks) : (named kind name arguments marks).isBare = false := by
  cases kind <;> rfl

/-- A readable type has a readable form without its annotations, which have no spaces in them. -/
theorem reading_of_isReadable {kinds : String → NameKind} {type : TypeRef}
    (readable : type.isReadable kinds = true) :
    Reading kinds type.unannotated ∧ areAnnotations type.annotations = true := by
  match type with
  | .nominal declarationId arguments marks =>
    simp only [isReadable, Bool.and_eq_true, decide_eq_true_eq, areReadable_iff] at readable
    obtain ⟨⟨⟨kind, name⟩, annotations⟩, inside⟩ := readable
    have reading := Reading.byName marks.nullable name (by simp [kind]) inside
    rw [kind] at reading
    exact ⟨reading, annotations⟩
  | .parameter spelled marks =>
    simp only [isReadable, Bool.and_eq_true, decide_eq_true_eq] at readable
    obtain ⟨⟨kind, name⟩, annotations⟩ := readable
    have reading : Reading kinds (named (kinds spelled) spelled [] ⟨marks.nullable, []⟩) :=
      .byName marks.nullable name (fun _ => rfl) (by simp)
    rw [kind] at reading
    exact ⟨reading, annotations⟩
  | .function suspending receiver parameters result marks =>
    simp only [isReadable, Bool.and_eq_true, areReadable_iff] at readable
    obtain ⟨⟨⟨annotations, before⟩, inside⟩, last⟩ := readable
    refine ⟨?_, annotations⟩
    rcases marks with ⟨nullable, _⟩
    cases nullable with
    | false => exact .bare ⟨before, inside, last⟩
    | true => exact .enclosed ⟨before, inside, last⟩
  | .alias aliasId arguments marks =>
    simp only [isReadable, Bool.and_eq_true, decide_eq_true_eq, areReadable_iff] at readable
    obtain ⟨⟨⟨kind, name⟩, annotations⟩, inside⟩ := readable
    have reading := Reading.byName marks.nullable name (by simp [kind]) inside
    rw [kind] at reading
    exact ⟨reading, annotations⟩

/-- The characters of the text of a type. -/
def text (type : TypeRef) : List Char := type.render.toList

/-- The characters of annotations in front of a type. -/
def annotationChars (annotations : List String) : List Char :=
  annotations.flatMap fun note => '@' :: (note.toList ++ [' '])

/-- The characters of the mark behind a type. -/
def markChars (nullable : Bool) : List Char := if nullable then ['?'] else []

/-- The characters of the types behind the first one of a list. -/
def moreText : List TypeRef → List Char
  | [] => []
  | type :: types => ',' :: ' ' :: (type.text ++ moreText types)

/-- The characters of a list of types. -/
def listText : List TypeRef → List Char
  | [] => []
  | type :: types => type.text ++ moreText types

/-- The characters of type arguments. -/
def argumentChars : List TypeRef → List Char
  | [] => []
  | argument :: arguments => '<' :: (listText (argument :: arguments) ++ ['>'])

/-- The characters of the word in front of a suspending function type. -/
def suspendChars (suspending : Bool) : List Char := if suspending then "suspend ".toList else []

/-- The characters of a receiver with its dot. -/
def receiverChars : Option TypeRef → List Char
  | none => []
  | some receiver => receiver.text ++ ['.']

/-- The text of annotations has these characters. -/
theorem toList_annotationText (annotations : List String) :
    (annotationText annotations).toList = annotationChars annotations := by
  simp [annotationText, annotationChars, String.toList_join, List.flatMap_map]

/-- The texts of types with commas between them have these characters. -/
theorem toList_intercalate_renderAll (types : List TypeRef) :
    (", ".intercalate (renderAll types)).toList = listText types := by
  have more (type : TypeRef) (types : List TypeRef) :
      (", ".intercalate (renderAll (type :: types))).toList = type.text ++ moreText types := by
    induction types generalizing type with
    | nil => simp [renderAll, moreText, text]
    | cons next types ih =>
      specialize ih next
      simp only [renderAll, String.toList_intercalate, List.map_cons,
        List.intercalate_cons_cons] at ih ⊢
      rw [ih]
      simp [moreText, text]
  cases types with
  | nil => simp [renderAll, listText]
  | cons type types => exact more type types

/-- The text of type arguments has these characters. -/
theorem toList_argumentText (arguments : List TypeRef) :
    (argumentText (renderAll arguments)).toList = argumentChars arguments := by
  cases arguments with
  | nil => rfl
  | cons argument arguments =>
    rw [argumentChars, ← toList_intercalate_renderAll]
    simp [argumentText, renderAll]

/-- The mark has these characters. -/
theorem toList_nullMark (nullable : Bool) : (nullMark nullable).toList = markChars nullable := by
  cases nullable <;> rfl

/-- The text of a reference by name. -/
theorem text_named {kind : NameKind} {name : String} {arguments : List TypeRef} {marks : Marks}
    (alone : kind = .parameter → arguments = []) :
    (named kind name arguments marks).text = annotationChars marks.annotations ++
      (name.toList ++ (argumentChars arguments ++ markChars marks.nullable)) := by
  have spelled : (named kind name arguments marks).render =
      namedText name (renderAll arguments) marks := by
    cases kind with
    | declaration => rfl
    | parameter => rw [alone rfl]; rfl
    | abbreviation => rfl
  rw [text, spelled]
  simp [namedText, toList_annotationText, toList_argumentText, toList_nullMark]

/-- The text of a function type that is not nullable, without annotations. -/
theorem text_bare (suspending : Bool) (receiver : Option TypeRef) (parameters : List TypeRef)
    (result : TypeRef) :
    (function suspending receiver parameters result ⟨false, []⟩).text =
      suspendChars suspending ++ (receiverChars receiver ++
        ('(' :: (listText parameters ++ (')' :: ' ' :: '-' :: '>' :: ' ' :: result.text)))) := by
  have inFront : (renderReceiver receiver).toList = receiverChars receiver := by
    cases receiver <;> simp [renderReceiver, receiverChars, text]
  have word : (if suspending = true then "suspend " else "").toList = suspendChars suspending := by
    cases suspending <;> rfl
  have spelled : (function suspending receiver parameters result ⟨false, []⟩).render =
      (if suspending then "suspend " else "") ++ renderReceiver receiver ++ "(" ++
        ", ".intercalate (renderAll parameters) ++ ") -> " ++ result.render := by
    simp [render, functionText, annotationText, String.join]
  rw [text, spelled]
  simp only [String.toList_append, word, inFront, toList_intercalate_renderAll]
  simp [text]

/-- The text of a nullable function type is that of the other form in parentheses. -/
theorem text_nullable_function (suspending : Bool) (receiver : Option TypeRef)
    (parameters : List TypeRef) (result : TypeRef) :
    (function suspending receiver parameters result ⟨true, []⟩).text =
      '(' :: ((function suspending receiver parameters result ⟨false, []⟩).text ++ [')', '?']) := by
  simp [text, render, functionText, annotationText, String.join]

/-- The annotations of a type stand in front of the text of the type without them. -/
theorem text_eq_unannotated (type : TypeRef) :
    type.text = annotationChars type.annotations ++ type.unannotated.text := by
  cases type <;>
    simp [unannotated, withMarks, text, render, namedText, functionText, annotations, nullable,
      TypeRef.marks, toList_annotationText, annotationChars]

end TypeRef

end StableTypes
