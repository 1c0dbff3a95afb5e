import StableTypes.Number.Basic

/-!
# Decimal numerals

Reading a decimal numeral rounds it to the nearest number. Writing a number
takes the fewest digits that read back to it, and of those the nearest. The
digits are placed positionally from `1e-6` up to below `1e21`, and with an
exponent otherwise.
-/

namespace StableTypes.Number

/-- The number nearest to `digits * 10 ^ exponent` with the given sign. Exponents
far outside the range of numbers are settled without computing the power. -/
def ofDecimal (negative : Bool) (digits : Nat) (exponent : Int) : Number :=
  if digits = 0 then .finite 0
  else
    let length : Int := (digits.log2 : Int) / 3 + 1
    if 400 < exponent then .infinite negative
    else if length + exponent < -400 then .finite 0
    else
      let (num, den) := scaled 10 digits 1 (-exponent)
      ofQuotient negative num den

/-- Number of decimal digits of a natural number. -/
def digitCount (n : Nat) : Nat := (Nat.toDigits 10 n).length

/-- The exponent `p` with `10 ^ (p - 1) ≤ num / den < 10 ^ p`, for a positive
quotient. -/
def pointPosition (num den : Nat) : Int :=
  let guess : Int := (digitCount num : Int) - digitCount den
  let (n, d) := scaled 10 num den guess
  if n < d then guess else guess + 1

/-- The decimals next to a positive rational with `count` digits: the digits cut
off, and the same plus one, with their power of ten. -/
def neighbours (num den : Nat) (point : Int) (count : Nat) : Nat × Int :=
  let exponent := point - count
  let (n, d) := scaled 10 num den exponent
  (n / d, exponent)

/-- The digits of the first length from `count` on that read back, trying at most
`fuel` lengths; the nearer neighbour wins, and of two equally near the even. -/
def shortestFrom (value : Rat) (point : Int) : (fuel count : Nat) → Nat × Int
  | 0, count => neighbours value.num.natAbs value.den point count
  | fuel + 1, count =>
    let (low, exponent) := neighbours value.num.natAbs value.den point count
    let lowReads := ofDecimal false low exponent == .finite value
    let highReads := ofDecimal false (low + 1) exponent == .finite value
    if lowReads && highReads then
      let (n, d) := scaled 10 value.num.natAbs value.den exponent
      let twiceBelow := 2 * (n - low * d)
      if twiceBelow < d || (twiceBelow = d && low % 2 = 0) then (low, exponent)
      else (low + 1, exponent)
    else if lowReads then (low, exponent)
    else if highReads then (low + 1, exponent)
    else shortestFrom value point fuel (count + 1)

/-- Removes the zeros at the end of a digit string. -/
def dropTrailingZeros (digits : List Char) : List Char :=
  (digits.reverse.dropWhile (· == '0')).reverse

/-- The shortest digits of a positive number and the position of the decimal
point: the value is `0.d₁d₂… * 10 ^ point`. -/
def shortestDigits (value : Rat) : List Char × Int :=
  let point := pointPosition value.num.natAbs value.den
  let (digits, exponent) := shortestFrom value point 17 1
  let all := Nat.toDigits 10 digits
  (dropTrailingZeros all, exponent + all.length)

/-- A run of zeros. -/
def zeros (count : Nat) : String := String.ofList (List.replicate count '0')

/-- Digits and point written out: positional for points from -5 to 21, otherwise
one digit, the fraction and a signed exponent. -/
def placeDigits (digits : List Char) (point : Int) : String :=
  let text := String.ofList digits
  let count : Int := digits.length
  if count ≤ point ∧ point ≤ 21 then text ++ zeros (point - count).toNat
  else if 0 < point ∧ point ≤ 21 then
    String.ofList (digits.take point.toNat) ++ "." ++ String.ofList (digits.drop point.toNat)
  else if -6 < point ∧ point ≤ 0 then "0." ++ zeros (-point).toNat ++ text
  else
    let exponent := point - 1
    let sign := if exponent < 0 then "-" else "+"
    let fraction := match digits with
      | first :: second :: rest => String.ofList (first :: '.' :: second :: rest)
      | _ => text
    fraction ++ "e" ++ sign ++ toString exponent.natAbs

/-- The text of a positive finite number. -/
def positiveText (value : Rat) : String :=
  let (digits, point) := shortestDigits value
  placeDigits digits point

/-- The text of a number. -/
def text : Number → String
  | .infinite negative => if negative then "-Infinity" else "Infinity"
  | .finite value =>
    if value = 0 then "0"
    else if value < 0 then "-" ++ positiveText (-value)
    else positiveText value

/-- The text of a natural number, seen as a number. -/
def natText (n : Nat) : String := (Number.ofNat n).text

/-- The value of a run of decimal digits. -/
def digitsValue (digits : List Char) : Nat :=
  digits.foldl (fun value c => value * 10 + (c.toNat - '0'.toNat)) 0

end StableTypes.Number
