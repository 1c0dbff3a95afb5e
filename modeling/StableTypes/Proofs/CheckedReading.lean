import StableTypes.Validation
import Mathlib.Data.List.Forall2
import Mathlib.Data.Rat.Lemmas

/-!
# What checked reading accepts

Readers of documents are put together from a few parts, and so are the forms of documents that they
accept. For every part it is said here what it reads: which value comes out of which document, and
from that which documents are accepted at all. A reader of many parts accepts what all of its parts
accept. What a reader accepts can then be read off its parts, without a look at its issues.
-/

namespace StableTypes

namespace Validated

variable {α β : Type}

/-- Something was read. -/
def Accepted (result : Validated α) : Prop := ∃ value, result = .valid value

theorem accepted_valid (value : α) : (valid value).Accepted := ⟨value, rfl⟩

theorem not_accepted_invalid (first : Issue) (others : List Issue) :
    ¬ (invalid first others : Validated α).Accepted := nofun

/-- A function of what was read is read with it. -/
theorem map_eq_valid_iff {f : α → β} {result : Validated α} {value : β} :
    result.map f = .valid value ↔ ∃ inner, result = .valid inner ∧ f inner = value := by
  cases result <;> simp [map]

/-- Two parts are read if both are. -/
theorem also_eq_valid_iff {parts : Validated (α → β)} {part : Validated α} {value : β} :
    parts.also part = .valid value ↔
      ∃ f inner, parts = .valid f ∧ part = .valid inner ∧ f inner = value := by
  cases parts <;> cases part <;> simp [also]

/-- A function of what was read, if it is known what was. -/
theorem map_eq_valid (f : α → β) {result : Validated α} {value : α} (read : result = .valid value) :
    result.map f = .valid (f value) :=
  map_eq_valid_iff.mpr ⟨value, read, rfl⟩

/-- Two parts together, if it is known what was read of each. -/
theorem also_eq_valid {parts : Validated (α → β)} {part : Validated α} {f : α → β} {value : α}
    (first : parts = .valid f) (second : part = .valid value) :
    parts.also part = .valid (f value) :=
  also_eq_valid_iff.mpr ⟨f, value, first, second, rfl⟩

/-- A part is read in its container as it is read alone. -/
theorem under_eq_valid_iff {step : String} {result : Validated α} {value : α} :
    result.under step = .valid value ↔ result = .valid value := by
  cases result <;> simp [under]

theorem accepted_map {f : α → β} {result : Validated α} :
    (result.map f).Accepted ↔ result.Accepted := by
  cases result <;> simp [map, Accepted]

theorem accepted_also {parts : Validated (α → β)} {part : Validated α} :
    (parts.also part).Accepted ↔ parts.Accepted ∧ part.Accepted := by
  cases parts <;> cases part <;> simp [also, Accepted]

theorem accepted_under {step : String} {result : Validated α} :
    (result.under step).Accepted ↔ result.Accepted := by
  cases result <;> simp [under, Accepted]

end Validated

/-! ## Forms of documents -/

namespace Form

/-- A text. -/
def IsText (document : Json) : Prop := ∃ text, document = .string text

/-- A text that is not empty. -/
def IsName (document : Json) : Prop := ∃ text, text ≠ "" ∧ document = .string text

/-- One of a few texts. -/
def IsOneOf (names : List String) (document : Json) : Prop :=
  ∃ name ∈ names, document = .string name

/-- A truth value. -/
def IsFlag (document : Json) : Prop := ∃ value, document = .bool value

/-- A number that is an integer and not negative. -/
def IsCount (document : Json) : Prop := ∃ n : Nat, document = .number (.finite n)

/-- Nothing, or a document of the form given. -/
def IsNullOr (form : Json → Prop) (document : Json) : Prop := document = .null ∨ form document

/-- A list of documents of the form given. -/
def IsListOf (form : Json → Prop) (document : Json) : Prop :=
  ∃ items, document = .array items ∧ ∀ item ∈ items, form item

/-- An object with members of the form given. -/
def IsObject (form : List (String × Json) → Prop) (document : Json) : Prop :=
  ∃ members, document = .object members ∧ form members

/-- A member is there and has the form given. -/
def Has (name : String) (form : Json → Prop) (members : List (String × Json)) : Prop :=
  ∃ document, Table.get? name members = some document ∧ form document

/-- A member, if it is there, has the form given. -/
def MayHave (name : String) (form : Json → Prop) (members : List (String × Json)) : Prop :=
  ∀ document, Table.get? name members = some document → form document

end Form

namespace Check

open Validated Form

variable {α : Type} {read : Json → Validated α} {form : Json → Prop}
  {members : List (String × Json)} {name : String} {document : Json}

/-- The documents that a reader accepts. -/
def Accepts (read : Json → Validated α) (document : Json) : Prop := (read document).Accepted

/-! ## Texts, truth values and numbers -/

/-- A text is read as it is. -/
theorem text_eq_valid_iff {value : String} :
    text document = .valid value ↔ document = .string value := by
  cases document <;> simp [text, unexpected, fail]

/-- A text that is not empty is read as it is. -/
theorem nonempty_eq_valid_iff {value : String} :
    nonempty document = .valid value ↔ value ≠ "" ∧ document = .string value := by
  cases document with
  | string content =>
    rw [nonempty, Json.string.injEq]
    split
    next empty =>
      subst empty
      exact ⟨nofun, fun ⟨given, same⟩ => absurd same.symm given⟩
    next given =>
      rw [valid.injEq]
      exact ⟨fun same => ⟨same ▸ given, same⟩, And.right⟩
  | _ => simp [nonempty, unexpected, fail]

/-- A truth value is read as it is. -/
theorem flag_eq_valid_iff {value : Bool} :
    flag document = .valid value ↔ document = .bool value := by
  cases document <;> simp [flag, unexpected, fail]

/-- A number is a natural number if it is the value of one. -/
theorem natural?_eq_some_iff {number : Number} {n : Nat} :
    number.natural? = some n ↔ number = .finite n := by
  cases number with
  | infinite negative => simp [Number.natural?]
  | finite value =>
    rw [Number.natural?, Number.finite.injEq]
    constructor
    · intro read
      split at read
      next whole =>
        have num : value.num = n := by
          rw [← Option.some.inj read, Int.natAbs_of_nonneg whole.2]
        rw [← Rat.coe_int_num_of_den_eq_one whole.1, num]
        rfl
      next => cases read
    · rintro rfl
      simp

/-- A natural number is read from the number that it is. -/
theorem count_eq_valid_iff {n : Nat} :
    count document = .valid n ↔ document = .number (.finite n) := by
  cases document with
  | number value =>
    rw [Json.number.injEq, ← natural?_eq_some_iff, count]
    split
    next m natural => rw [natural, valid.injEq, Option.some.injEq]
    next none => split <;> simp [none]
  | _ => simp [count, unexpected, fail]

/-- One of a few names is read as the value that it names. -/
theorem oneOf_eq_valid_iff {values : List (String × α)} {value : α} :
    oneOf values document = .valid value ↔
      ∃ name, document = .string name ∧ values.lookup name = some value := by
  cases document with
  | string content =>
    rw [oneOf]
    rcases found : values.lookup content with _ | other <;> simp [found, fail]
  | _ => simp [oneOf, unexpected, fail]

/-! ## Lists and objects -/

/-- The items of a list are read one by one. -/
theorem items_eq_valid_iff {position : Nat} {content : List Json} {values : List α} :
    items read position content = .valid values ↔
      List.Forall₂ (fun item value => read item = .valid value) content values := by
  induction content generalizing position values with
  | nil => cases values <;> simp [items]
  | cons item rest ih =>
    simp only [items, also_eq_valid_iff, map_eq_valid_iff, under_eq_valid_iff, ih]
    cases values with
    | nil => simp
    | cons value others => simp [List.forall₂_cons]

/-- A list is read item by item. -/
theorem list_eq_valid_iff {values : List α} :
    list read document = .valid values ↔
      ∃ content, document = .array content ∧
        List.Forall₂ (fun item value => read item = .valid value) content values := by
  cases document with
  | array content => simp [list, items_eq_valid_iff]
  | _ => simp [list, unexpected, fail]

/-- An object is read by its members. -/
theorem object_eq_valid_iff {read : List (String × Json) → Validated α} {value : α} :
    object read document = .valid value ↔
      ∃ members, document = .object members ∧ read members = .valid value := by
  cases document <;> simp [object, unexpected, fail]

/-- A member that must be there is read if it is. -/
theorem required_eq_valid_iff {value : α} :
    required name read members = .valid value ↔
      ∃ document, Table.get? name members = some document ∧ read document = .valid value := by
  rw [required, under_eq_valid_iff]
  cases Table.get? name members <;> simp [present, fail]

/-- A member that may be missing is read if it is there. -/
theorem optional_eq_valid_iff {value : Option α} :
    optional name read members = .valid value ↔
      Option.Rel (fun document inner => read document = .valid inner)
        (Table.get? name members) value := by
  rw [optional]
  cases Table.get? name members with
  | none => cases value <;> simp
  | some document =>
    simp only [map_eq_valid_iff, under_eq_valid_iff]
    cases value <;> simp

/-- A member with a default is read if it is there. -/
theorem defaulted_eq_valid_iff {missing value : α} :
    defaulted name read missing members = .valid value ↔
      ∃ stated, optional name read members = .valid stated ∧ stated.getD missing = value :=
  map_eq_valid_iff

/-- A value of a list was read from an item. -/
theorem exists_item_of_mem {values : List α} (valid : list read document = .valid values)
    {value : α} (member : value ∈ values) : ∃ item, read item = .valid value := by
  obtain ⟨content, -, each⟩ := list_eq_valid_iff.mp valid
  clear valid
  induction each with
  | nil => cases member
  | cons first _ ih =>
    rcases List.mem_cons.mp member with rfl | later
    · exact ⟨_, first⟩
    · exact ih later

/-- A value of an optional member was read from it. -/
theorem exists_document_of_mem {value : Option α}
    (valid : optional name read members = .valid value) {inner : α} (given : inner ∈ value) :
    ∃ document, read document = .valid inner := by
  have related := optional_eq_valid_iff.mp valid
  rw [Option.mem_def.mp given] at related
  generalize Table.get? name members = found at related
  cases related with
  | some first => exact ⟨_, first⟩

/-- A value of a list that may be missing was read from an item. -/
theorem exists_item_of_mem_defaulted {values : List α}
    (valid : defaulted name (list read) [] members = .valid values) {value : α}
    (member : value ∈ values) : ∃ item, read item = .valid value := by
  obtain ⟨stated, given, rfl⟩ := defaulted_eq_valid_iff.mp valid
  cases stated with
  | none => cases member
  | some stated =>
    obtain ⟨document, listed⟩ := exists_document_of_mem given rfl
    exact exists_item_of_mem listed member

/-- A required name is not empty. -/
theorem ne_empty_of_required {id : String} (valid : required name nonempty members = .valid id) :
    id ≠ "" := by
  obtain ⟨document, -, valid⟩ := required_eq_valid_iff.mp valid
  exact (nonempty_eq_valid_iff.mp valid).1

/-! ## Reading back what was written -/

/-- A list written item by item is read back if its items are. -/
theorem list_map_eq_valid {write : α → Json} {values : List α}
    (each : ∀ value ∈ values, read (write value) = .valid value) :
    list read (.array (values.map write)) = .valid values := by
  rw [list, items_eq_valid_iff, List.forall₂_map_left_iff]
  exact List.forall₂_same.mpr each

/-- A list of texts is read back. -/
theorem list_strings_eq_valid (texts : List String) :
    list text (Json.strings texts) = .valid texts :=
  list_map_eq_valid fun _ _ => rfl

/-- A member that must be there is read back where it stands. -/
theorem required_eq_valid {value : α} (found : Table.get? name members = some document)
    (back : read document = .valid value) : required name read members = .valid value :=
  required_eq_valid_iff.mpr ⟨document, found, back⟩

/-- A member that was written where there is a value is read back. -/
theorem optional_eq_valid {write : α → Json} {value : Option α}
    (found : Table.get? name members = value.map write)
    (back : ∀ inner ∈ value, read (write inner) = .valid inner) :
    optional name read members = .valid value := by
  rw [optional_eq_valid_iff, found]
  cases value with
  | none => exact .none
  | some inner => exact .some (back inner rfl)

/-- A truth value that was written where there is one is read back. -/
theorem optional_flag_eq_valid {value : Option Bool}
    (found : Table.get? name members = value.map .bool) :
    optional name flag members = .valid value :=
  optional_eq_valid found fun _ _ => rfl

/-- A text that was written where there is one is read back. -/
theorem optional_text_eq_valid {value : Option String}
    (found : Table.get? name members = value.map .string) :
    optional name text members = .valid value :=
  optional_eq_valid found fun _ _ => rfl

/-- A member with a default is read back where it stands. -/
theorem defaulted_eq_valid {missing value : α} (found : Table.get? name members = some document)
    (back : read document = .valid value) : defaulted name read missing members = .valid value := by
  refine defaulted_eq_valid_iff.mpr ⟨some value, ?_, rfl⟩
  rw [optional_eq_valid_iff, found]
  exact .some back

/-! ## The forms accepted -/

theorem accepts_text : Accepts text = IsText := by
  funext document
  simp only [Accepts, Accepted, text_eq_valid_iff, IsText]

theorem accepts_nonempty : Accepts nonempty = IsName := by
  funext document
  simp only [Accepts, Accepted, nonempty_eq_valid_iff, IsName]

theorem accepts_flag : Accepts flag = IsFlag := by
  funext document
  simp only [Accepts, Accepted, flag_eq_valid_iff, IsFlag]

theorem accepts_count : Accepts count = IsCount := by
  funext document
  simp only [Accepts, Accepted, count_eq_valid_iff, IsCount]

/-- Of a few names each is accepted, and nothing else. -/
theorem accepts_oneOf (values : List (String × α)) :
    Accepts (oneOf values) = IsOneOf (values.map (·.1)) := by
  funext document
  rw [Accepts, Accepted, IsOneOf, eq_iff_iff]
  simp only [oneOf_eq_valid_iff]
  constructor
  · rintro ⟨value, name, rfl, found⟩
    obtain ⟨entry, member, same⟩ := List.lookup_isSome_iff.mp (Option.isSome_of_eq_some found)
    exact ⟨name, List.mem_map.mpr ⟨entry, member, (beq_iff_eq.mp same).symm⟩, rfl⟩
  · rintro ⟨name, listed, rfl⟩
    obtain ⟨entry, member, same⟩ := List.mem_map.mp listed
    have found : (values.lookup name).isSome :=
      List.lookup_isSome_iff.mpr ⟨entry, member, beq_iff_eq.mpr same.symm⟩
    obtain ⟨value, found⟩ := Option.isSome_iff_exists.mp found
    exact ⟨value, name, rfl, found⟩

/-- Items are accepted if each of them is. -/
theorem accepted_items {position : Nat} {content : List Json} :
    (items read position content).Accepted ↔ ∀ item ∈ content, Accepts read item := by
  induction content generalizing position with
  | nil => simp [items, accepted_valid]
  | cons item rest ih =>
    rw [items, accepted_also, accepted_map, accepted_under, ih, List.forall_mem_cons]
    rfl

/-- A list is accepted if all of its items are. -/
theorem accepts_list (read : Json → Validated α) :
    Accepts (list read) = IsListOf (Accepts read) := by
  funext document
  rw [Accepts, IsListOf, eq_iff_iff]
  cases document with
  | array content => simp [list, accepted_items]
  | _ => simp [list, unexpected, fail, not_accepted_invalid]

/-- An object is accepted if its members are. -/
theorem accepts_object (read : List (String × Json) → Validated α) :
    Accepts (object read) = IsObject fun members => (read members).Accepted := by
  funext document
  rw [Accepts, IsObject, eq_iff_iff]
  cases document with
  | object members => simp [object]
  | _ => simp [object, unexpected, fail, not_accepted_invalid]

/-- An object is accepted in a form if its members are. -/
theorem accepts_object_eq {read : List (String × Json) → Validated α}
    {form : List (String × Json) → Prop}
    (each : ∀ members, (read members).Accepted ↔ form members) :
    Accepts (object read) = IsObject form := by
  rw [accepts_object]
  exact congrArg IsObject (funext fun members => propext (each members))

/-- A required member has to be there in the form that is accepted. -/
theorem accepted_required :
    (required name read members).Accepted ↔ Has name (Accepts read) members := by
  rw [required, accepted_under, Has]
  cases Table.get? name members with
  | none => simp [present, fail, not_accepted_invalid]
  | some document => simp [present, Accepts]

/-- An optional member may be there in the form that is accepted. -/
theorem accepted_optional :
    (optional name read members).Accepted ↔ MayHave name (Accepts read) members := by
  rw [optional, MayHave]
  cases Table.get? name members with
  | none => simp [accepted_valid]
  | some document => simp [accepted_map, accepted_under, Accepts]

/-- A member with a default may be there in the form that is accepted. -/
theorem accepted_defaulted {missing : α} :
    (defaulted name read missing members).Accepted ↔ MayHave name (Accepts read) members :=
  accepted_map.trans accepted_optional

end Check

end StableTypes
