/-!
# Binary floating-point numbers, exactly

A finite binary floating-point number is a sign, a whole mantissa and a power of two. This module
holds that reading of a number and the one rounding every conversion into a format goes through:
`BinaryFormat.nearest`, to the closest representable value with ties to the even mantissa.
-/

namespace CardPress

/-- A binary floating-point format: the bits of a full mantissa and the exponents of the smallest
and largest unit in the last place. -/
structure BinaryFormat where
  precision : Nat
  leastExponent : Int
  greatestExponent : Int
  deriving DecidableEq, Repr

namespace BinaryFormat

def double : BinaryFormat := ⟨53, -1074, 971⟩

def single : BinaryFormat := ⟨24, -149, 104⟩

end BinaryFormat

/-- The number `mantissa * 2 ^ exponent`, negated if `negative` is set; zero keeps its sign. -/
structure Binary where
  negative : Bool
  mantissa : Nat
  exponent : Int
  deriving DecidableEq, Repr

/-- The quotient `num / den` rounded to a whole number, a tie going to the even one. -/
def roundDivEven (num den : Nat) : Nat :=
  let q := num / den
  let twice := 2 * (num % den)
  if twice < den then q
  else if den < twice then q + 1
  else if q % 2 = 0 then q else q + 1

/-- Multiply a fraction by `2 ^ e`, keeping numerator and denominator whole. -/
def scaleFraction (num den : Nat) : Int → Nat × Nat
  | .ofNat e => (num * Nat.pow 2 e, den)
  | .negSucc e => (num, den * Nat.pow 2 (e + 1))

namespace BinaryFormat

/-- The mantissa and exponent of the representable number closest to `num / den`, or nothing when
it lies beyond the largest one. -/
def nearest (format : BinaryFormat) (num den : Nat) : Option (Nat × Int) :=
  if num = 0 then some (0, format.leastExponent)
  else
    let low := max ((num.log2 : Int) - den.log2 - format.precision) format.leastExponent
    let (n, d) := scaleFraction num den (-low)
    let exponent := if n / d < Nat.pow 2 format.precision then low else low + 1
    let (n, d) := scaleFraction num den (-exponent)
    let mantissa := roundDivEven n d
    let (mantissa, exponent) :=
      if mantissa < Nat.pow 2 format.precision then (mantissa, exponent)
      else (mantissa / 2, exponent + 1)
    if exponent ≤ format.greatestExponent then some (mantissa, exponent) else none

end BinaryFormat

namespace Binary

/-- Toward zero. -/
def truncate (b : Binary) : Int :=
  let n : Nat := match b.exponent with
    | .ofNat e => b.mantissa * Nat.pow 2 e
    | .negSucc e => b.mantissa / Nat.pow 2 (e + 1)
  if b.negative then -n else n

/-- To the nearest whole number, a half going away from zero. -/
def roundAway (b : Binary) : Int :=
  let n : Nat := match b.exponent with
    | .ofNat e => b.mantissa * Nat.pow 2 e
    | .negSucc e => (2 * b.mantissa / Nat.pow 2 (e + 1) + 1) / 2
  if b.negative then -n else n

/-- The value, if it is a whole number. -/
def whole? (b : Binary) : Option Int :=
  let n? : Option Nat := match b.exponent with
    | .ofNat e => some (b.mantissa * Nat.pow 2 e)
    | .negSucc e =>
      if b.mantissa % Nat.pow 2 (e + 1) = 0 then some (b.mantissa / Nat.pow 2 (e + 1)) else none
  n?.map fun n => if b.negative then -(n : Int) else n

end Binary

end CardPress
