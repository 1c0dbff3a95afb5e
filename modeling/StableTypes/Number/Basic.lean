/-!
# Numbers

A number of a report or a setting is a 64-bit binary floating point number that
is not NaN. It is held as the exact rational it stands for, or as one of the two
infinities; both zeros are one number. `Number.ofQuotient` rounds a quotient to the
nearest such number, a tie going to the even significand.
-/

namespace StableTypes

/-- A floating point number, known by its exact value. -/
inductive Number where
  /-- A finite number. -/
  | finite (value : Rat)
  /-- An infinity of the given sign. -/
  | infinite (negative : Bool)
deriving DecidableEq, Inhabited

namespace Number

/-- The nearest natural number to `num / den`; a tie goes to the even one. -/
def roundQuotient (num den : Nat) : Nat :=
  let low := num / den
  let rest := num % den
  if 2 * rest < den then low
  else if den < 2 * rest then low + 1
  else low + low % 2

/-- The quotient `num / den` in units of a power of a base, as a fraction of
naturals. -/
def scaled (base num den : Nat) (scale : Int) : Nat × Nat :=
  if 0 ≤ scale then (num, den * Nat.pow base scale.toNat)
  else (num * Nat.pow base (-scale).toNat, den)

/-- The exponent of the last significand bit of a positive quotient: 53 bits are
kept, and no exponent is below -1074. -/
def lastBit (num den : Nat) : Int :=
  let guess : Int := (num.log2 : Int) - (den.log2 : Int) - 52
  let (n, d) := scaled 2 num den guess
  let exact := if n < d * Nat.pow 2 52 then guess - 1 else guess
  max exact (-1074)

/-- The number nearest to a nonnegative quotient. A magnitude of `2 ^ 1024` or
more is infinite. -/
def ofQuotient (negative : Bool) (num den : Nat) : Number :=
  if num = 0 then .finite 0
  else
    let scale := lastBit num den
    let (n, d) := scaled 2 num den scale
    let (above, below) := scaled 2 (roundQuotient n d) 1 (-scale)
    if below * Nat.pow 2 1024 ≤ above then .infinite negative
    else .finite (mkRat (if negative then -above else above) below)

/-- A natural number that is already exact. -/
def ofNat (n : Nat) : Number := .finite n

/-- The natural number that a number is, if it is one. -/
def natural? : Number → Option Nat
  | .finite value => if value.den = 1 ∧ 0 ≤ value.num then some value.num.natAbs else none
  | .infinite _ => none

/-- A finite number without a fraction. -/
def isInteger : Number → Bool
  | .finite value => value.den = 1
  | .infinite _ => false

/-- A number below zero. -/
def isNegative : Number → Bool
  | .finite value => value < 0
  | .infinite negative => negative

/-- The number zero. -/
def isZero : Number → Bool
  | .finite value => value = 0
  | .infinite _ => false

/-- The least natural number that is not below a number. For positive infinity
it is `2 ^ 1024`, which no count reaches. -/
def ceilNat : Number → Nat
  | .finite value => value.ceil.toNat
  | .infinite true => 0
  | .infinite false => Nat.pow 2 1024

end Number

end StableTypes
