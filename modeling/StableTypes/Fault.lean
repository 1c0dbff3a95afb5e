/-!
# Faults

A query to a host can fail, either with an error that carries a message or with
some other value, which stands here as the text that it is turned into; a value that
cannot be turned into a text is never thrown. Callers that recover from a fault look
at the message or the text only.
-/

namespace StableTypes

/-- Why a query failed. -/
inductive Fault where
  /-- An error with a message. -/
  | error (message : String)
  /-- Another value, as its text. -/
  | bare (text : String)
deriving DecidableEq, Inhabited

/-- What a fault says. -/
def Fault.message : Fault → String
  | .error message => message
  | .bare text => text

/-- An answer, with its fault thrown. -/
def answer {m : Type → Type} {α : Type} [Monad m] [MonadExceptOf Fault m] : Except Fault α → m α
  | .ok value => pure value
  | .error fault => throw fault

end StableTypes
