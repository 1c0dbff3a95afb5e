import StableTypes.Proofs.ReadableText

/-!
# Where the pieces of a text end

Names, annotations and marks are read from the left, and what may stand behind each of them says
where it ends. The one point of doubt is a dot: names have dots in them, and behind a receiver a
dot comes before the parenthesis. How a text begins tells a name from a function type in
parentheses, and either from the word for suspending.
-/

namespace StableTypes.TypeRef

/-- Behind a type inside another one there is nothing, a comma or a closing bracket. -/
def Closes (rest : List Char) : Prop := ∀ c ∈ rest.head?, c = ',' ∨ c = '>' ∨ c = ')'

/-- Behind a type of a list there are the next one's comma or the bracket that closes the list. -/
theorem closes_moreText (types : List TypeRef) {closer : Char}
    (closes : closer = '>' ∨ closer = ')') (rest : List Char) :
    Closes (moreText types ++ closer :: rest) := by
  intro c first
  cases types with
  | nil =>
    obtain rfl : closer = c := by simpa [moreText] using first
    exact .inr closes
  | cons type types =>
    obtain rfl : ',' = c := by simpa [moreText] using first
    exact .inl rfl

/-- Behind a receiver there are a dot and a parenthesis. -/
def Dots (rest : List Char) : Prop := ∃ more, rest = '.' :: '(' :: more

/-- What may stand behind a type that can be a receiver. -/
def Follows (rest : List Char) : Prop := Closes rest ∨ Dots rest

/-- What may stand behind a name: nothing, a mark or a bracket, a space, or a dot and a
parenthesis. -/
def Behind (rest : List Char) : Prop :=
  (∀ c ∈ rest.head?, isNameChar c = false ∧ c ≠ '(') ∨ Dots rest

/-- A name does not go on with what may stand behind another one. -/
theorem ne_of_behind {c : Char} {more rest rest' : List Char}
    (all : ∀ d ∈ c :: more, isNameChar d = true) (behind : Behind rest) (behind' : Behind rest') :
    rest ≠ c :: more ++ rest' := by
  intro same
  rcases behind with other | ⟨last, dots⟩
  · have plain := (other c (by simp [same])).1
    rw [all c (.head _)] at plain
    cases plain
  · -- The dot could belong to the name, but the parenthesis behind it could not.
    rw [dots] at same
    simp only [List.cons_append, List.cons.injEq] at same
    cases more with
    | nil =>
      rw [List.nil_append] at same
      rcases behind' with other | ⟨_, dots'⟩
      · exact (other '(' (by simp [← same.2])).2 rfl
      · rw [dots'] at same
        simp at same
    | cons d more =>
      rw [List.cons_append, List.cons.injEq] at same
      have name := all d (by simp)
      rw [← same.2.1] at name
      exact absurd name (by decide)

/-- Where a name ends is determined by what may stand behind it. -/
theorem name_unique {name name' rest rest' : List Char} (all : ∀ c ∈ name, isNameChar c = true)
    (all' : ∀ c ∈ name', isNameChar c = true) (behind : Behind rest) (behind' : Behind rest')
    (same : name ++ rest = name' ++ rest') : name = name' ∧ rest = rest' := by
  rcases List.append_eq_append_iff.mp same with ⟨more, rfl, split⟩ | ⟨more, rfl, split⟩
  · cases more with
    | nil => simpa using split
    | cons c more =>
      have named : ∀ d ∈ c :: more, isNameChar d = true := fun d member =>
        all' d (List.mem_append_right _ member)
      exact absurd split (ne_of_behind named behind behind')
  · cases more with
    | nil => simpa using split.symm
    | cons c more =>
      have named : ∀ d ∈ c :: more, isNameChar d = true := fun d member =>
        all d (List.mem_append_right _ member)
      exact absurd split (ne_of_behind named behind' behind)

/-- Where an annotation ends is determined by the space behind it. -/
theorem annotation_unique {note note' rest rest' : List Char} (all : ' ' ∉ note)
    (all' : ' ' ∉ note') (same : note ++ ' ' :: rest = note' ++ ' ' :: rest') :
    note = note' ∧ rest = rest' := by
  rcases List.append_eq_append_iff.mp same with ⟨more, rfl, split⟩ | ⟨more, rfl, split⟩
  · cases more with
    | nil => simpa using split
    | cons c more => simp_all
  · cases more with
    | nil => simpa using split.symm
    | cons c more => simp_all

/-- Where annotations end is determined by what stands behind them, which has no at sign in
front. -/
theorem annotations_unique {annotations annotations' : List String} {rest rest' : List Char}
    (all : areAnnotations annotations = true) (all' : areAnnotations annotations' = true)
    (plain : rest.head? ≠ some '@') (plain' : rest'.head? ≠ some '@')
    (same : annotationChars annotations ++ rest = annotationChars annotations' ++ rest') :
    annotations = annotations' ∧ rest = rest' := by
  induction annotations generalizing annotations' with
  | nil =>
    cases annotations' with
    | nil => exact ⟨rfl, same⟩
    | cons annotation annotations' =>
      rw [show rest = _ from same] at plain
      simp [annotationChars] at plain
  | cons annotation annotations ih =>
    cases annotations' with
    | nil =>
      rw [show rest' = _ from same.symm] at plain'
      simp [annotationChars] at plain'
    | cons annotation' annotations' =>
      rw [areAnnotations, List.all_cons, Bool.and_eq_true] at all all'
      obtain ⟨first, all⟩ := all
      obtain ⟨first', all'⟩ := all'
      simp only [annotationChars, List.flatMap_cons, List.cons_append, List.append_assoc,
        List.cons.injEq, true_and, List.nil_append] at same
      obtain ⟨spelled, others⟩ := annotation_unique (by simpa using first)
        (by simpa using first') same
      obtain ⟨rfl, rfl⟩ := ih all all' others
      rw [String.toList_inj.mp spelled]
      exact ⟨rfl, rfl⟩

variable {kinds : String → NameKind}

/-- A name has characters, none of which has a meaning of its own. -/
theorem of_isName {name : String} (h : isName name = true) :
    (∃ c more, name.toList = c :: more) ∧ ∀ c ∈ name.toList, isNameChar c = true := by
  simp only [isName, Bool.and_eq_true, decide_eq_true_eq, List.all_eq_true] at h
  refine ⟨List.exists_cons_of_ne_nil fun empty => h.1 ?_, h.2⟩
  exact String.toList_eq_nil_iff.mp empty

/-- The text of a reference by name without annotations. -/
theorem text_name {name : String} {arguments : List TypeRef} {nullable : Bool}
    (alone : kinds name = .parameter → arguments = []) :
    (named (kinds name) name arguments ⟨nullable, []⟩).text =
      name.toList ++ (argumentChars arguments ++ markChars nullable) :=
  text_named alone

/-- The text of a type that can be a receiver begins with a name or a parenthesis. -/
theorem Reading.opens_of_single {type : TypeRef} (reading : Reading kinds type)
    (single : type.isBare = false) :
    ∃ c more, type.text = c :: more ∧ (isNameChar c = true ∨ c = '(') := by
  cases reading with
  | byName nullable name alone inside =>
    obtain ⟨⟨c, more, spelled⟩, all⟩ := of_isName name
    rw [text_name alone, spelled]
    exact ⟨c, _, rfl, .inl (all c (by simp [spelled]))⟩
  | enclosed parts => exact ⟨'(', _, text_nullable_function _ _ _ _, .inr rfl⟩
  | bare parts => cases single

/-- The receiver of a function type that does not suspend has no annotations. -/
theorem reading_receiver {receiver : TypeRef}
    (h : isReadableReceiver kinds false (some receiver) = true) :
    Reading kinds receiver ∧ receiver.isBare = false := by
  obtain ⟨readable, single, annotated⟩ := of_isReadableReceiver h
  have reading := (reading_of_isReadable readable).1
  rw [unannotated_of_plain (annotated rfl)] at reading
  exact ⟨reading, single⟩

/-- The text of a type without annotations begins with a name or a parenthesis. -/
theorem Reading.opens {type : TypeRef} (reading : Reading kinds type) :
    ∃ c more, type.text = c :: more ∧ (isNameChar c = true ∨ c = '(') := by
  cases reading with
  | byName nullable name alone inside =>
    exact (Reading.byName nullable name alone inside).opens_of_single (isBare_named _ _ _ _)
  | enclosed parts => exact (Reading.enclosed parts).opens_of_single rfl
  | @bare suspending receiver parameters result parts =>
    rw [text_bare]
    cases suspending with
    | true => exact ⟨'s', _, rfl, .inl (by decide)⟩
    | false =>
      cases receiver with
      | none => exact ⟨'(', _, rfl, .inr rfl⟩
      | some receiver =>
        obtain ⟨reading, single⟩ := reading_receiver parts.receiver
        obtain ⟨c, more, begins, opens⟩ := reading.opens_of_single single
        rw [receiverChars, begins]
        exact ⟨c, _, rfl, opens⟩

/-- The text of a type without annotations does not begin with an at sign. -/
theorem Reading.head?_ne {type : TypeRef} (reading : Reading kinds type) (rest : List Char) :
    (type.text ++ rest).head? ≠ some '@' := by
  obtain ⟨c, more, begins, opens⟩ := reading.opens
  intro same
  obtain rfl : c = '@' := by simpa [begins] using same
  exact absurd opens (by decide)

/-- The text of a readable type does not begin with a closing bracket. -/
theorem head?_ne_of_isReadable {type : TypeRef} (readable : type.isReadable kinds = true)
    {closer : Char} (closes : closer = '>' ∨ closer = ')') (rest : List Char) :
    (type.text ++ rest).head? ≠ some closer := by
  obtain ⟨c, more, begins, opens⟩ := (reading_of_isReadable readable).1.opens
  rw [text_eq_unannotated, begins]
  cases type.annotations with
  | nil =>
    rintro same
    obtain rfl : c = closer := by simpa [annotationChars] using same
    rcases opens with name | rfl
    · rcases closes with rfl | rfl <;> exact absurd name (by decide)
    · exact absurd closes (by decide)
  | cons annotation annotations =>
    rintro same
    obtain rfl : '@' = closer := by simpa [annotationChars] using same
    exact absurd closes (by decide)

/-- What may stand behind a type begins with one of few characters. -/
theorem Follows.head?_ne {rest : List Char} (follows : Follows rest) {c : Char}
    (other : c ∉ [',', '>', ')', '.']) : rest.head? ≠ some c := by
  intro same
  rcases follows with closes | ⟨more, rfl⟩
  · rcases closes c same with rfl | rfl | rfl <;> exact other (by decide)
  · obtain rfl : '.' = c := by simpa using same
    exact other (by decide)

/-- Behind the arguments of a name there is no space and nothing that opens arguments. -/
theorem head?_markChars_ne (nullable : Bool) {rest : List Char} (follows : Follows rest)
    {c : Char} (other : c ∉ [',', '>', ')', '.', '?']) :
    (markChars nullable ++ rest).head? ≠ some c := by
  cases nullable with
  | false => exact follows.head?_ne fun member => other (by simp_all)
  | true =>
    intro same
    obtain rfl : '?' = c := by simpa [markChars] using same
    exact other (by decide)

/-- What stands behind the name in a reference may stand behind a name. -/
theorem behind_name (arguments : List TypeRef) (nullable : Bool) {rest : List Char}
    (follows : Follows rest) :
    Behind (argumentChars arguments ++ (markChars nullable ++ rest)) := by
  cases arguments with
  | cons argument arguments => exact .inl (by simp [argumentChars]; decide)
  | nil =>
    cases nullable with
    | true => exact .inl (by simp [argumentChars, markChars]; decide)
    | false =>
      rcases follows with closes | dots
      · refine .inl fun c first => ?_
        rcases closes c first with rfl | rfl | rfl <;> decide
      · exact .inr dots

/-- The mark behind a reference is read in one way. -/
theorem markChars_unique {nullable nullable' : Bool} {rest rest' : List Char}
    (follows : Follows rest) (follows' : Follows rest')
    (same : markChars nullable ++ rest = markChars nullable' ++ rest') :
    nullable = nullable' ∧ rest = rest' := by
  cases nullable with
  | false =>
    cases nullable' with
    | false => exact ⟨rfl, same⟩
    | true => exact absurd (congrArg List.head? same) (follows.head?_ne (by decide))
  | true =>
    cases nullable' with
    | false => exact absurd (congrArg List.head? same.symm) (follows'.head?_ne (by decide))
    | true => exact ⟨rfl, by simpa [markChars] using same⟩

/-- A type that can be a receiver does not begin with the word for suspending. -/
theorem Reading.ne_suspend {type : TypeRef} (reading : Reading kinds type)
    (single : type.isBare = false) {rest more : List Char} (follows : Follows rest) :
    type.text ++ rest ≠ suspendChars true ++ more := by
  intro same
  cases reading with
  | @byName name arguments nullable spelled alone inside =>
    rw [text_name alone, List.append_assoc, List.append_assoc] at same
    have space : Behind (' ' :: more) := .inl (by simp; decide)
    have word : name.toList ++ (argumentChars arguments ++ (markChars nullable ++ rest)) =
        "suspend".toList ++ ' ' :: more := same
    have suspend : isName "suspend" = true := by decide +kernel
    obtain ⟨-, others⟩ := name_unique (of_isName spelled).2 (of_isName suspend).2
      (behind_name arguments nullable follows) space word
    cases arguments with
    | nil => exact head?_markChars_ne nullable follows (by decide) (congrArg List.head? others)
    | cons argument arguments => cases others
  | enclosed parts =>
    rw [text_nullable_function] at same
    cases same
  | bare parts => cases single

/-- A reference by name is not read as a function type in parentheses. -/
theorem byName_ne_enclosed {name : String} {arguments : List TypeRef} {nullable suspending : Bool}
    {receiver : Option TypeRef} {parameters : List TypeRef} {result : TypeRef}
    {rest rest' : List Char} (spelled : isName name = true)
    (alone : kinds name = .parameter → arguments = []) :
    (named (kinds name) name arguments ⟨nullable, []⟩).text ++ rest ≠
      (function suspending receiver parameters result ⟨true, []⟩).text ++ rest' := by
  intro same
  obtain ⟨⟨c, more, begins⟩, all⟩ := of_isName spelled
  rw [text_name alone, text_nullable_function, begins] at same
  obtain rfl : c = '(' := (List.cons.inj same).1
  exact absurd (all '(' (by simp [begins])) (by decide)

end StableTypes.TypeRef
