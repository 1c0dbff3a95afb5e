import StableTypes.Fault

/-!
# Guards

While a type is classified its signature is on a bounded stack, and in a set that
answers quickly whether a signature is on the stack. Entering a signature that is
there already reports a cycle, and entering one more than the stack holds reports
that the nesting is too deep; neither changes the guard. A signature is left only
while it is the innermost one. A second guard is the set of the declarations
whose rules are being applied.
-/

namespace StableTypes

/-- The answer to entering a signature. -/
inductive GuardEntry where
  /-- The signature is now the innermost one. -/
  | entered
  /-- The signature was entered before and not left since. -/
  | cycle
  /-- The stack is full. -/
  | tooDeep
deriving DecidableEq, Inhabited

/-- The signatures under classification. -/
structure SignatureGuard where
  /-- How many signatures there may be. -/
  capacity : Int
  /-- The signatures entered and not left, as a set: each once. -/
  active : List String
  /-- The signatures entered and not left, the innermost first. -/
  stack : List String
deriving DecidableEq, Inhabited

namespace SignatureGuard

/-- A guard with nothing entered. -/
def fresh (capacity : Int) : SignatureGuard := ⟨capacity, [], []⟩

/-- How many signatures are entered. -/
def depth (guard : SignatureGuard) : Nat := guard.stack.length

/-- How many more signatures can be entered. -/
def room (guard : SignatureGuard) : Nat := (guard.capacity - guard.depth).toNat

/-- The guard with one more signature, the innermost one. -/
def push (guard : SignatureGuard) (signature : String) : SignatureGuard :=
  { guard with active := signature :: guard.active, stack := signature :: guard.stack }

/-- Enters a signature. A cycle is reported also when the stack is full. -/
def enter (guard : SignatureGuard) (signature : String) : GuardEntry × SignatureGuard :=
  if signature ∈ guard.active then (.cycle, guard)
  else if guard.capacity ≤ guard.depth then (.tooDeep, guard)
  else (.entered, guard.push signature)

/-- The innermost signature. -/
def innermost (guard : SignatureGuard) : String := guard.stack.headD "(empty)"

/-- Leaves a signature, which has to be the innermost one. -/
def exit (guard : SignatureGuard) (signature : String) : Except Fault SignatureGuard :=
  match guard.stack with
  | top :: rest =>
    if top = signature then
      .ok { guard with active := guard.active.filter (· ≠ signature), stack := rest }
    else .error (.error
      s!"Signature guard out of order: expected {guard.innermost}, got {signature}")
  | [] => .error (.error
      s!"Signature guard out of order: expected {guard.innermost}, got {signature}")

end SignatureGuard

/-- The ids of the declarations whose rules are being applied. -/
structure DeclarationGuard where
  /-- The ids, each once, the latest first. -/
  active : List String
deriving DecidableEq, Inhabited

namespace DeclarationGuard

/-- No declaration. -/
def empty : DeclarationGuard := ⟨[]⟩

/-- A declaration is there. -/
def has (guard : DeclarationGuard) (id : String) : Bool := guard.active.contains id

/-- Adds a declaration. -/
def add (guard : DeclarationGuard) (id : String) : DeclarationGuard :=
  if guard.has id then guard else ⟨id :: guard.active⟩

/-- Removes a declaration. -/
def remove (guard : DeclarationGuard) (id : String) : DeclarationGuard :=
  ⟨guard.active.filter (· ≠ id)⟩

/-- The declarations of a list. -/
def ofList (ids : List String) : DeclarationGuard := ids.foldl add empty

end DeclarationGuard

end StableTypes
