import StableTypes.Classifier.Rules

/-!
# Guarded classification

Classifying a type applies the rules while the signature of the type is on the
stack of a guard, which the whole classification shares. A signature that is on
the stack already, or finds it full, is decided by run time. A fault of the model
becomes an outcome of the type under classification, and the signature is left
on every path. The room left on the stack bounds the recursion. How a monad keeps
its guard is left open, so the same classification can be run with its steps on
record.
-/

namespace StableTypes

/-- A monad in which signatures are entered and left. -/
class Guarding (m : Type → Type) where
  /-- Enters a signature. -/
  enter : String → m GuardEntry
  /-- Leaves a signature. -/
  exit : String → m Unit

/-- A computation that changes a signature guard and may fail. The guard stays as
it is at a failure. -/
abbrev Analysis := ExceptT Fault (StateM SignatureGuard)

namespace Analysis

variable {α : Type}

/-- Enters a signature. -/
def enter (signature : String) : Analysis GuardEntry := do
  let (entry, guard) := (← get).enter signature
  set guard
  return entry

/-- Leaves a signature. -/
def exit (signature : String) : Analysis Unit := do
  match (← get).exit signature with
  | .ok guard => set guard
  | .error fault => throw fault

instance : Guarding Analysis := ⟨enter, exit⟩

/-- Runs an analysis on a guard: the result and the guard afterwards. -/
def runOn (analysis : Analysis α) (guard : SignatureGuard) : Except Fault α × SignatureGuard :=
  (ExceptT.run analysis).run guard

end Analysis

namespace Judge

/-- The outcome of a type whose classification failed. -/
def failureOutcome (typeName : String) (fault : Fault) : Classification :=
  .runtime typeName (Reason.failed fault.message)

section

variable {m : Type → Type} [Monad m] [MonadExceptOf Fault m] [Guarding m]

/-- Computes the outcome of a type while its signature is on the stack. -/
def guarded (signature : String) (outcome : m Classification) : m Classification := do
  match ← Guarding.enter signature with
  | .cycle => return .runtime signature Reason.circularReference
  | .tooDeep => return .runtime signature Reason.tooComplex
  | .entered =>
    let result ← tryCatch outcome fun fault => pure (failureOutcome signature fault)
    Guarding.exit signature
    return result

/-- Classifies a type with room for `room` more signatures. -/
def classifyWithin (judge : Judge) : (room : Nat) → TypeRef → m Classification
  | 0, type => guarded type.signature (pure (.runtime type.signature Reason.tooComplex))
  | room + 1, type =>
    guarded type.signature (judge.typeOutcome (judge.classifyWithin room) type)

end

/-- Classifies a type on the guard at hand. -/
def classify (judge : Judge) (type : TypeRef) : Analysis Classification := do
  judge.classifyWithin (← get).room type

/-- Classifies a type that the host may fail to hand over as a whole. The types that a
type holds are values and can always be read. -/
def classifyReading (judge : Judge) : Except Fault TypeRef → Analysis Classification
  | .ok type => judge.classify type
  | .error fault => return failureOutcome Reason.unreadableType fault

/-- Applies the rules for declarations on the guards at hand. -/
def classifyClass (judge : Judge) (declaration : Declaration) (guard : DeclarationGuard) :
    Analysis (Classification × DeclarationGuard) :=
  judge.analyzeClass judge.classify declaration guard

/-- The guard that the policy asks for, with nothing entered. -/
def freshGuard (judge : Judge) : SignatureGuard := .fresh judge.policy.maxRecursionDepth

end Judge

end StableTypes
