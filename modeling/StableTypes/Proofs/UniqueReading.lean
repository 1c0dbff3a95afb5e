import StableTypes.Proofs.TextBoundaries

/-!
# Reading a text in one way

No two readable types are the beginnings of one text that go on with what can stand behind a type.
The proof compares two readings from the left, by induction on the length of both: the annotations
first, then a name, the word for suspending or a parenthesis, which leaves few pairs of forms. Two
of them are told apart only further on, by reading a receiver or the types in parentheses and
looking at what comes behind.
-/

namespace StableTypes.TypeRef

variable {kinds : String → NameKind}

/-- What may stand behind two types that are compared: where both can be receivers, they may be. -/
def Ends (type type' : TypeRef) (rest : List Char) : Prop :=
  Closes rest ∨ type.isBare = false ∧ type'.isBare = false ∧ Dots rest

/-- The order of the types does not matter to what may stand behind them. -/
theorem Ends.symm {type type' : TypeRef} {rest : List Char} (ends : Ends type type' rest) :
    Ends type' type rest := by
  rcases ends with closes | ⟨single, single', dots⟩
  · exact .inl closes
  · exact .inr ⟨single', single, dots⟩

/-- Behind two types that are compared there is what may stand behind a type. -/
theorem Ends.follows {type type' : TypeRef} {rest : List Char} (ends : Ends type type' rest) :
    Follows rest :=
  ends.imp_right fun dots => dots.2.2

/-- Where one of the types cannot be a receiver, they stand inside another one. -/
theorem Ends.closes {type type' : TypeRef} {rest : List Char} (ends : Ends type type' rest)
    (bare : type'.isBare = true) : Closes rest := by
  rcases ends with closes | ⟨-, single, -⟩
  · exact closes
  · rw [bare] at single
    cases single

/-- Readable types whose texts together have fewer than `bound` characters are the same if their
texts begin one text that goes on with what may stand behind them. -/
def UniqueBelow (kinds : String → NameKind) (bound : Nat) : Prop :=
  ∀ type type' rest rest', type.isReadable kinds = true → type'.isReadable kinds = true →
    type.text.length + type'.text.length < bound → Ends type type' rest → Ends type type' rest' →
    type.text ++ rest = type'.text ++ rest' → type = type' ∧ rest = rest'

section

variable {bound : Nat} (unique : UniqueBelow kinds bound)
include unique

/-- Lists of types are read in one way up to a closing bracket, a comma in front of each type. -/
theorem moreText_unique {types types' : List TypeRef} {closer : Char} {rest rest' : List Char}
    (readable : ∀ type ∈ types, type.isReadable kinds = true)
    (readable' : ∀ type ∈ types', type.isReadable kinds = true)
    (short : (moreText types).length + (moreText types').length < bound + 4)
    (closes : closer = '>' ∨ closer = ')')
    (same : moreText types ++ closer :: rest = moreText types' ++ closer :: rest') :
    types = types' ∧ rest = rest' := by
  induction types generalizing types' with
  | nil =>
    cases types' with
    | nil => simpa [moreText] using same
    | cons type' types' =>
      obtain ⟨rfl, -⟩ : closer = ',' ∧ _ := by simpa [moreText] using same
      exact absurd closes (by decide)
  | cons type types ih =>
    cases types' with
    | nil =>
      obtain ⟨rfl, -⟩ : ',' = closer ∧ _ := by simpa [moreText] using same
      exact absurd closes (by decide)
    | cons type' types' =>
      simp only [moreText, List.cons_append, List.append_assoc, List.cons.injEq, true_and,
        List.length_cons, List.length_append] at same short
      obtain ⟨rfl, others⟩ := unique type type' _ _ (readable _ (.head _)) (readable' _ (.head _))
        (by omega) (.inl (closes_moreText types closes rest))
        (.inl (closes_moreText types' closes rest')) same
      obtain ⟨rfl, rfl⟩ := ih (fun type member => readable type (.tail _ member))
        (fun type member => readable' type (.tail _ member)) (by omega) others
      exact ⟨rfl, rfl⟩

/-- Lists of types are read in one way up to a closing bracket. -/
theorem listText_unique {types types' : List TypeRef} {closer : Char} {rest rest' : List Char}
    (readable : ∀ type ∈ types, type.isReadable kinds = true)
    (readable' : ∀ type ∈ types', type.isReadable kinds = true)
    (short : (listText types).length + (listText types').length < bound)
    (closes : closer = '>' ∨ closer = ')')
    (same : listText types ++ closer :: rest = listText types' ++ closer :: rest') :
    types = types' ∧ rest = rest' := by
  cases types with
  | nil =>
    cases types' with
    | nil => simpa [listText] using same
    | cons type' types' =>
      refine absurd ?_ (head?_ne_of_isReadable (readable' _ (.head _)) closes
        (moreText types' ++ closer :: rest'))
      rw [← List.append_assoc, ← listText, ← same]
      rfl
  | cons type types =>
    cases types' with
    | nil =>
      refine absurd ?_ (head?_ne_of_isReadable (readable _ (.head _)) closes
        (moreText types ++ closer :: rest))
      rw [← List.append_assoc, ← listText, same]
      rfl
    | cons type' types' =>
      -- With a comma in front these are the types behind the first one of a longer list.
      refine moreText_unique unique readable readable' ?_ closes
        (congrArg (fun text => ',' :: ' ' :: text) same)
      simp only [listText, moreText, List.length_cons, List.length_append] at short ⊢
      omega

/-- Arguments are read in one way. -/
theorem argumentChars_unique {arguments arguments' : List TypeRef} {rest rest' : List Char}
    (readable : ∀ argument ∈ arguments, argument.isReadable kinds = true)
    (readable' : ∀ argument ∈ arguments', argument.isReadable kinds = true)
    (short : (argumentChars arguments).length + (argumentChars arguments').length < bound)
    (plain : rest.head? ≠ some '<') (plain' : rest'.head? ≠ some '<')
    (same : argumentChars arguments ++ rest = argumentChars arguments' ++ rest') :
    arguments = arguments' ∧ rest = rest' := by
  cases arguments with
  | nil =>
    cases arguments' with
    | nil => exact ⟨rfl, same⟩
    | cons argument' arguments' =>
      refine absurd ?_ plain
      rw [show rest = _ from same]
      rfl
  | cons argument arguments =>
    cases arguments' with
    | nil =>
      refine absurd ?_ plain'
      rw [show rest' = _ from same.symm]
      rfl
    | cons argument' arguments' =>
      simp only [argumentChars, List.cons_append, List.append_assoc, List.cons.injEq, true_and,
        List.nil_append, List.length_cons, List.length_append, List.length_nil] at same short
      exact listText_unique unique readable readable' (by omega) (.inl rfl) same

/-- References by name are read in one way. -/
theorem byName_unique {name name' : String} {arguments arguments' : List TypeRef}
    {nullable nullable' : Bool} {rest rest' : List Char}
    (spelled : isName name = true) (spelled' : isName name' = true)
    (alone : kinds name = .parameter → arguments = [])
    (alone' : kinds name' = .parameter → arguments' = [])
    (inside : ∀ argument ∈ arguments, argument.isReadable kinds = true)
    (inside' : ∀ argument ∈ arguments', argument.isReadable kinds = true)
    (short : (argumentChars arguments).length + (argumentChars arguments').length < bound)
    (follows : Follows rest) (follows' : Follows rest')
    (same : (named (kinds name) name arguments ⟨nullable, []⟩).text ++ rest =
      (named (kinds name') name' arguments' ⟨nullable', []⟩).text ++ rest') :
    named (kinds name) name arguments ⟨nullable, []⟩ =
      named (kinds name') name' arguments' ⟨nullable', []⟩ ∧ rest = rest' := by
  rw [text_name alone, text_name alone', List.append_assoc, List.append_assoc, List.append_assoc,
    List.append_assoc] at same
  obtain ⟨names, others⟩ := name_unique (of_isName spelled).2 (of_isName spelled').2
    (behind_name arguments nullable follows) (behind_name arguments' nullable' follows') same
  obtain ⟨rfl, marks⟩ := argumentChars_unique unique inside inside' short
    (head?_markChars_ne nullable follows (by decide))
    (head?_markChars_ne nullable' follows' (by decide)) others
  obtain ⟨rfl, rfl⟩ := markChars_unique follows follows' marks
  rw [String.toList_inj.mp names]
  exact ⟨rfl, rfl⟩

/-- Parameters are not read as a function type in parentheses: behind one there is an arrow and
behind the other a mark. -/
theorem parameters_ne_enclosed {parameters : List TypeRef} {type : TypeRef} {rest rest' : List Char}
    (inside : ∀ parameter ∈ parameters, parameter.isReadable kinds = true)
    (readable : type.isReadable kinds = true)
    (short : (listText parameters).length + type.text.length < bound) :
    listText parameters ++ ')' :: ' ' :: rest ≠ type.text ++ ')' :: '?' :: rest' := by
  intro same
  cases parameters with
  | nil =>
    refine head?_ne_of_isReadable readable (.inr rfl) (')' :: '?' :: rest') ?_
    rw [← same]
    rfl
  | cons parameter parameters =>
    rw [listText, List.append_assoc] at same
    rw [listText, List.length_append] at short
    obtain ⟨-, others⟩ := unique parameter type _ _ (inside _ (.head _)) readable (by omega)
      (.inl (closes_moreText parameters (.inr rfl) _)) (.inl (closes_moreText [] (.inr rfl) _)) same
    cases parameters <;> simp [moreText] at others

/-- Parameters are not read as a type that can be a receiver. -/
theorem parameters_ne_single {parameters : List TypeRef} {type : TypeRef} {rest rest' : List Char}
    (inside : ∀ parameter ∈ parameters, parameter.isReadable kinds = true)
    (readable : type.isReadable kinds = true) (single : type.isBare = false)
    (short : (listText parameters).length + type.text.length ≤ bound) :
    '(' :: (listText parameters ++ ')' :: ' ' :: rest) ≠ type.text ++ rest' := by
  intro same
  rw [text_eq_unannotated] at same short
  cases annotated : type.annotations with
  | cons annotation annotations =>
    rw [annotated] at same
    simp [annotationChars] at same
  | nil =>
    rw [annotated, show annotationChars [] = [] from rfl, List.nil_append] at same short
    have reading := (reading_of_isReadable readable).1
    rw [← isBare_unannotated] at single
    generalize type.unannotated = type at *
    cases reading with
    | byName nullable spelled alone inside' =>
      obtain ⟨⟨c, more, begins⟩, all⟩ := of_isName spelled
      rw [text_name alone, begins] at same
      obtain ⟨rfl, -⟩ : '(' = c ∧ _ := by simpa using same
      exact absurd (all '(' (by simp [begins])) (by decide)
    | enclosed parts =>
      rw [text_nullable_function] at same short
      simp only [List.cons_append, List.cons.injEq, List.append_assoc, List.nil_append, true_and,
        List.length_cons, List.length_append] at same short
      exact parameters_ne_enclosed unique inside (parts.isReadable false) (by omega) same
    | bare parts => cases single

variable {suspending suspending' : Bool} {receiver receiver' : Option TypeRef}
  {parameters parameters' : List TypeRef} {result result' : TypeRef}

/-- A function type without parentheses around it is not read as a type that can be a receiver. -/
theorem single_ne_bare {type : TypeRef} {rest rest' : List Char} (reading : Reading kinds type)
    (single : type.isBare = false)
    (parts : ReadableParts kinds suspending receiver parameters result)
    (short : type.text.length +
      (function suspending receiver parameters result ⟨false, []⟩).text.length ≤ bound)
    (closes : Closes rest) :
    type.text ++ rest ≠
      (function suspending receiver parameters result ⟨false, []⟩).text ++ rest' := by
  intro same
  rw [text_bare] at same short
  cases suspending with
  | true =>
    rw [List.append_assoc] at same
    exact reading.ne_suspend single (.inl closes) same
  | false =>
    simp only [suspendChars, Bool.false_eq_true, if_false, List.nil_append, List.append_assoc,
      List.cons_append, List.length_append, List.length_cons] at same short
    cases receiver with
    | none =>
      exact parameters_ne_single unique parts.parameters reading.isReadable single (by omega)
        same.symm
    | some receiver =>
      obtain ⟨readable, single', -⟩ := of_isReadableReceiver parts.receiver
      simp only [receiverChars, List.append_assoc, List.cons_append, List.nil_append,
        List.length_append, List.length_cons] at same short
      obtain ⟨-, dots⟩ := unique type receiver _ _ reading.isReadable readable (by omega)
        (.inl closes) (.inr ⟨single, single', _, rfl⟩) same
      rcases closes '.' (by simp [dots]) with h | h | h <;> exact absurd h (by decide)

/-- Receivers are read in one way in front of parameters, and whether there is one. -/
theorem receiver_unique {rest rest' : List Char}
    (before : isReadableReceiver kinds suspending receiver = true)
    (before' : isReadableReceiver kinds suspending receiver' = true)
    (inside : ∀ parameter ∈ parameters, parameter.isReadable kinds = true)
    (inside' : ∀ parameter ∈ parameters', parameter.isReadable kinds = true)
    (short : (receiverChars receiver).length + (listText parameters).length +
      ((receiverChars receiver').length + (listText parameters').length) < bound)
    (same : receiverChars receiver ++ '(' :: (listText parameters ++ ')' :: ' ' :: rest) =
      receiverChars receiver' ++ '(' :: (listText parameters' ++ ')' :: ' ' :: rest')) :
    receiver = receiver' ∧
      listText parameters ++ ')' :: ' ' :: rest = listText parameters' ++ ')' :: ' ' :: rest' := by
  cases receiver with
  | none =>
    cases receiver' with
    | none => exact ⟨rfl, by simpa [receiverChars] using same⟩
    | some receiver' =>
      obtain ⟨readable', single', -⟩ := of_isReadableReceiver before'
      simp only [receiverChars, List.nil_append, List.append_assoc, List.cons_append,
        List.length_append, List.length_cons, List.length_nil] at same short
      exact (parameters_ne_single unique inside readable' single' (by omega) same).elim
  | some receiver =>
    obtain ⟨readable, single, -⟩ := of_isReadableReceiver before
    cases receiver' with
    | none =>
      simp only [receiverChars, List.nil_append, List.append_assoc, List.cons_append,
        List.length_append, List.length_cons, List.length_nil] at same short
      exact (parameters_ne_single unique inside' readable single (by omega) same.symm).elim
    | some receiver' =>
      obtain ⟨readable', single', -⟩ := of_isReadableReceiver before'
      simp only [receiverChars, List.append_assoc, List.cons_append, List.nil_append,
        List.length_append, List.length_cons, List.length_nil] at same short
      obtain ⟨rfl, others⟩ := unique receiver receiver' _ _ readable readable' (by omega)
        (.inr ⟨single, single', _, rfl⟩) (.inr ⟨single, single', _, rfl⟩) same
      simp only [List.cons.injEq, true_and] at others
      exact ⟨rfl, others⟩

/-- Function types without parentheses around them are read in one way. -/
theorem bare_unique {rest rest' : List Char}
    (parts : ReadableParts kinds suspending receiver parameters result)
    (parts' : ReadableParts kinds suspending' receiver' parameters' result')
    (short : (function suspending receiver parameters result ⟨false, []⟩).text.length +
      (function suspending' receiver' parameters' result' ⟨false, []⟩).text.length ≤ bound)
    (closes : Closes rest) (closes' : Closes rest')
    (same : (function suspending receiver parameters result ⟨false, []⟩).text ++ rest =
      (function suspending' receiver' parameters' result' ⟨false, []⟩).text ++ rest') :
    function suspending receiver parameters result ⟨false, []⟩ =
      function suspending' receiver' parameters' result' ⟨false, []⟩ ∧ rest = rest' := by
  -- The word for suspending is not read as a receiver or a parenthesis.
  have word {receiver : Option TypeRef} {more more' : List Char}
      (before : isReadableReceiver kinds false receiver = true) :
      suspendChars true ++ more ≠ receiverChars receiver ++ '(' :: more' := by
    intro same
    cases receiver with
    | none => cases same
    | some receiver =>
      obtain ⟨reading, single⟩ := reading_receiver before
      rw [receiverChars, List.append_assoc] at same
      exact reading.ne_suspend single (.inr ⟨_, rfl⟩) same.symm
  rw [text_bare, text_bare] at same short
  simp only [List.append_assoc, List.cons_append, List.length_append, List.length_cons]
    at same short
  obtain rfl : suspending = suspending' := by
    cases suspending with
    | false =>
      cases suspending' with
      | false => rfl
      | true => exact (word parts.receiver same.symm).elim
    | true =>
      cases suspending' with
      | false => exact (word parts'.receiver same).elim
      | true => rfl
  obtain ⟨rfl, others⟩ := receiver_unique unique parts.receiver parts'.receiver parts.parameters
    parts'.parameters (by omega) (List.append_cancel_left same)
  obtain ⟨rfl, arrow⟩ := listText_unique unique parts.parameters parts'.parameters (by omega)
    (.inr rfl) others
  simp only [List.cons.injEq, true_and] at arrow
  obtain ⟨rfl, rfl⟩ := unique result result' rest rest' parts.result parts'.result (by omega)
    (.inl closes) (.inl closes') arrow
  exact ⟨rfl, rfl⟩

/-- Types without annotations are read in one way. -/
theorem reading_unique {type type' : TypeRef} {rest rest' : List Char}
    (reading : Reading kinds type) (reading' : Reading kinds type')
    (short : type.text.length + type'.text.length ≤ bound)
    (ends : Ends type type' rest) (ends' : Ends type type' rest')
    (same : type.text ++ rest = type'.text ++ rest') : type = type' ∧ rest = rest' := by
  have short' : type'.text.length + type.text.length ≤ bound := by omega
  cases reading with
  | byName nullable spelled alone inside =>
    cases reading' with
    | byName nullable' spelled' alone' inside' =>
      refine byName_unique unique spelled spelled' alone alone' inside inside' ?_ ends.follows
        ends'.follows same
      obtain ⟨⟨c, more, begins⟩, -⟩ := of_isName spelled
      rw [text_name alone, text_name alone', begins] at short
      simp only [List.cons_append, List.length_cons, List.length_append] at short
      omega
    | bare parts' =>
      exact (single_ne_bare unique (.byName nullable spelled alone inside) (isBare_named _ _ _ _)
        parts' short (ends.closes rfl) same).elim
    | enclosed parts' => exact (byName_ne_enclosed spelled alone same).elim
  | bare parts =>
    cases reading' with
    | byName nullable' spelled' alone' inside' =>
      exact (single_ne_bare unique (.byName nullable' spelled' alone' inside')
        (isBare_named _ _ _ _) parts short' (ends'.symm.closes rfl) same.symm).elim
    | bare parts' =>
      exact bare_unique unique parts parts' short (ends.closes rfl) (ends'.closes rfl) same
    | enclosed parts' =>
      exact (single_ne_bare unique (.enclosed parts') rfl parts short' (ends'.symm.closes rfl)
        same.symm).elim
  | enclosed parts =>
    cases reading' with
    | byName nullable' spelled' alone' inside' =>
      exact (byName_ne_enclosed spelled' alone' same.symm).elim
    | bare parts' =>
      exact (single_ne_bare unique (.enclosed parts) rfl parts' short (ends.closes rfl) same).elim
    | enclosed parts' =>
      rw [text_nullable_function, text_nullable_function] at same short
      simp only [List.cons_append, List.append_assoc, List.nil_append, List.cons.injEq, true_and,
        List.length_cons, List.length_append] at same short
      obtain ⟨forms, others⟩ := unique _ _ _ _ (parts.isReadable false) (parts'.isReadable false)
        (by omega) (.inl (closes_moreText [] (.inr rfl) _)) (.inl (closes_moreText [] (.inr rfl) _))
        same
      cases forms
      simpa using others

end

/-- Readable types are read in one way, whatever the length of their texts. -/
theorem uniqueBelow (kinds : String → NameKind) (bound : Nat) : UniqueBelow kinds bound := by
  induction bound with
  | zero =>
    intro type type' rest rest' _ _ short
    omega
  | succ bound ih =>
    intro type type' rest rest' readable readable' short ends ends' same
    obtain ⟨reading, spaceless⟩ := reading_of_isReadable readable
    obtain ⟨reading', spaceless'⟩ := reading_of_isReadable readable'
    rw [text_eq_unannotated, text_eq_unannotated type', List.append_assoc,
      List.append_assoc] at same
    rw [text_eq_unannotated, text_eq_unannotated type', List.length_append,
      List.length_append] at short
    obtain ⟨annotations, others⟩ := annotations_unique spaceless spaceless' (reading.head?_ne rest)
      (reading'.head?_ne rest') same
    obtain ⟨forms, rfl⟩ := reading_unique ih reading reading' (by omega)
      (by simpa [Ends] using ends) (by simpa [Ends] using ends') others
    exact ⟨eq_of_unannotated annotations forms, rfl⟩

/-- Readable types are the same if their texts begin one text, behind which both stand inside
another type or both are receivers. -/
theorem text_unique {kinds : String → NameKind} {type type' : TypeRef} {rest rest' : List Char}
    (readable : type.isReadable kinds = true) (readable' : type'.isReadable kinds = true)
    (ends : Ends type type' rest) (ends' : Ends type type' rest')
    (same : type.text ++ rest = type'.text ++ rest') : type = type' ∧ rest = rest' :=
  uniqueBelow kinds _ type type' rest rest' readable readable' (Nat.lt_succ_self _) ends ends' same

/-- Readable types are rendered alike exactly if they are the same. -/
theorem render_eq_iff {kinds : String → NameKind} {type type' : TypeRef}
    (readable : type.isReadable kinds = true) (readable' : type'.isReadable kinds = true) :
    type.render = type'.render ↔ type = type' := by
  constructor
  · intro same
    have closes : Ends type type' [] := .inl (by simp [Closes])
    have texts : type.text ++ [] = type'.text ++ [] := by rw [text, text, same]
    exact (text_unique readable readable' closes closes texts).1
  · exact congrArg render

end StableTypes.TypeRef
