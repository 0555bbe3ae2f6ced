/-!
Fractional numbers: floating point of 53 binary digits. A decimal is read as the nearest of them,
and each is written with the fewest digits that read back as itself.
-/
namespace TapeMachine

/-- A number `mantissa * 2 ^ exponent` with a sign, an infinity, or no number at all. -/
inductive Binary64 where
  | finite (negative : Bool) (mantissa : Nat) (exponent : Int)
  | infinite (negative : Bool)
  | nan
  deriving DecidableEq, Repr

namespace Binary64

/-- How many binary digits a mantissa has, and the least exponent of all. -/
def precision : Nat := 53

def leastExponent : Int := -1074

def greatestExponent : Int := 971

/-- The quotient as a whole number, a half going to the even neighbour. -/
def divideToEven (numerator denominator : Nat) : Nat :=
  let q := numerator / denominator
  let twice := 2 * (numerator % denominator)
  if twice > denominator || (twice == denominator && q % 2 == 1) then q + 1 else q

/-- `numerator / denominator` in units of `2 ^ exponent`, as a fraction. -/
def inUnits (numerator denominator : Nat) (exponent : Int) : Nat × Nat :=
  if 0 ≤ exponent then (numerator, denominator * Nat.pow 2 exponent.toNat)
  else (numerator * Nat.pow 2 (-exponent).toNat, denominator)

/-- The exponent at which a positive quotient has 53 binary digits, or the least one. -/
def exponentFor (numerator denominator : Nat) : Int :=
  let guess := (numerator.log2 : Int) - denominator.log2 - (precision - 1)
  let (n, d) := inUnits numerator denominator guess
  let exact := if n / d < Nat.pow 2 (precision - 1) then guess - 1 else guess
  max exact leastExponent

/-- The nearest number to `numerator / denominator`. -/
def ofQuotient (negative : Bool) (numerator denominator : Nat) : Binary64 :=
  if numerator = 0 then .finite negative 0 leastExponent
  else
    let e := exponentFor numerator denominator
    let (n, d) := inUnits numerator denominator e
    let m := divideToEven n d
    let (m, e) := if m = Nat.pow 2 precision then (Nat.pow 2 (precision - 1), e + 1) else (m, e)
    if e > greatestExponent then .infinite negative else .finite negative m e

/-- The nearest number to `digits * 10 ^ scale`; what is far out of range is not computed. -/
def ofDecimal (negative : Bool) (digits : Nat) (scale : Int) : Binary64 :=
  let size := (Nat.toDigits 10 digits).length
  if digits = 0 || size + scale < -330 then .finite negative 0 leastExponent
  else if size + scale > 320 then .infinite negative
  else if 0 ≤ scale then ofQuotient negative (digits * Nat.pow 10 scale.toNat) 1
  else ofQuotient negative digits (Nat.pow 10 (-scale).toNat)

/-- The numerator and denominator of a number's magnitude. -/
def quotient (mantissa : Nat) (exponent : Int) : Nat × Nat :=
  if 0 ≤ exponent then (mantissa * Nat.pow 2 exponent.toNat, 1)
  else (mantissa, Nat.pow 2 (-exponent).toNat)

/-- Digits without the zeros at their end, and the scale that makes up for them. -/
def stripZeros : (fuel : Nat) → Nat → Int → Nat × Int
  | 0, digits, scale => (digits, scale)
  | fuel + 1, digits, scale =>
    if digits % 10 = 0 && digits != 0 then stripZeros fuel (digits / 10) (scale + 1)
    else (digits, scale)

/-- The power of ten that the first digit of a positive quotient stands for. -/
def decimalPlace (numerator denominator : Nat) : Int :=
  if denominator ≤ numerator then (Nat.toDigits 10 (numerator / denominator)).length - 1
  else
    let guess := (Nat.toDigits 10 (denominator / numerator)).length
    if denominator ≤ numerator * Nat.pow 10 (guess - 1) then -((guess : Int) - 1) else -guess

/-- The neighbours of a quotient among the multiples of `10 ^ scale`, the nearer one first. -/
def neighbours (numerator denominator : Nat) (scale : Int) : List Nat :=
  let (n, d) :=
    if 0 ≤ scale then (numerator, denominator * Nat.pow 10 scale.toNat)
    else (numerator * Nat.pow 10 (-scale).toNat, denominator)
  let q := n / d
  let twice := 2 * (n % d)
  if twice < d || (twice == d && q % 2 == 0) then [q, q + 1] else [q + 1, q]

/-- Digits and scale of a magnitude as it is written: the first of the neighbours with one, two, and
up to seventeen digits that reads back, or else all its digits. -/
def shortest (mantissa : Nat) (exponent : Int) : Nat × Int :=
  let (n, d) := quotient mantissa exponent
  let place := decimalPlace n d
  let candidates := (List.range 17).flatMap fun (count : Nat) =>
    let scale : Int := place - count
    (neighbours n d scale).map fun digits => (digits, scale)
  let exact := (n * Nat.pow 10 (-exponent).toNat / d, -((-exponent).toNat : Int))
  let (digits, scale) :=
    (candidates.find? fun (digits, scale) =>
      ofDecimal false digits scale == .finite false mantissa exponent).getD exact
  stripZeros 800 digits scale

/-- An exponent: its sign and at least two digits. -/
def exponentText (n : Int) : String :=
  let digits := toString n.natAbs
  (if n < 0 then "e-" else "e+") ++ (if digits.length < 2 then "0" ++ digits else digits)

/-- Digits and their scale in writing: positional from `10 ^ -4` up to `10 ^ 16`, with a point. -/
def decimalText (digits : Nat) (scale : Int) : String :=
  let ds := Nat.toDigits 10 digits
  let place := scale + ds.length - 1
  if place < -4 || 16 ≤ place then
    let fraction := ds.drop 1
    String.ofList (ds.take 1 ++ if fraction.isEmpty then [] else '.' :: fraction)
      ++ exponentText place
  else if place < 0 then
    "0." ++ String.ofList (List.replicate (-place - 1).toNat '0' ++ ds)
  else
    let whole := ds.take (place.toNat + 1) ++ List.replicate scale.toNat '0'
    let fraction := ds.drop (place.toNat + 1)
    String.ofList (whole ++ '.' :: if fraction.isEmpty then ['0'] else fraction)

def magnitudeText (mantissa : Nat) (exponent : Int) : String :=
  if mantissa = 0 then "0.0"
  else
    let (digits, scale) := shortest mantissa exponent
    decimalText digits scale

def text : Binary64 → String
  | finite negative m e => (if negative then "-" else "") ++ magnitudeText m e
  | infinite negative => if negative then "-Infinity" else "Infinity"
  | nan => "NaN"

end Binary64

end TapeMachine
