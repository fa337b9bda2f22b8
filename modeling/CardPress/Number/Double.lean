import CardPress.Number.Binary

/-!
# Doubles

The exact side of `Float`: its order and equality, its conversion to and from whole numbers, and
the roundings that keep the sign of zero. All of it is read off the bits, so statements about it
need no facts on machine arithmetic.
-/

namespace CardPress.Double

def isNegative (x : Float) : Bool :=
  x.toBits.toNat / Nat.pow 2 63 = 1

/-- The bits below the sign: they grow with the absolute value. -/
def magnitude (x : Float) : Nat :=
  x.toBits.toNat % Nat.pow 2 63

/-- The magnitude of the infinities; a NaN has a larger one. -/
def infiniteMagnitude : Nat := 0x7ff0000000000000

def isNaN (x : Float) : Bool :=
  infiniteMagnitude < magnitude x

def isFinite (x : Float) : Bool :=
  magnitude x < infiniteMagnitude

/-- A whole number that orders doubles as their values do; both zeros get `0`, a NaN none. -/
def key? (x : Float) : Option Int :=
  if isNaN x then none
  else some (if isNegative x then -(magnitude x : Int) else magnitude x)

/-- The IEEE order, in which a NaN compares with nothing. -/
def compare? (x y : Float) : Option Ordering :=
  match key? x, key? y with
  | some a, some b => some (compare a b)
  | _, _ => none

/-- IEEE equality: the zeros are equal and a NaN equals nothing. -/
def equal (x y : Float) : Bool :=
  match key? x, key? y with
  | some a, some b => a == b
  | _, _ => false

def isZero (x : Float) : Bool :=
  magnitude x = 0

/-- A finite double taken apart. -/
def decode? (x : Float) : Option Binary :=
  if isFinite x then
    let field : Nat := magnitude x / Nat.pow 2 52
    let fraction : Nat := magnitude x % Nat.pow 2 52
    some <|
      if field = 0 then ⟨isNegative x, fraction, -1074⟩
      else ⟨isNegative x, fraction + Nat.pow 2 52, (field : Int) - 1075⟩
  else none

/-- The double whose sign and magnitude are given. -/
def ofMagnitude (negative : Bool) (magnitude : Nat) : Float :=
  Float.ofBits (UInt64.ofNat (magnitude + if negative then Nat.pow 2 63 else 0))

/-- The double closest to `num / den`; past the largest one it is infinite. -/
def ofFraction (negative : Bool) (num den : Nat) : Float :=
  match BinaryFormat.double.nearest num den with
  | none => ofMagnitude negative infiniteMagnitude
  | some (mantissa, exponent) =>
    if mantissa < Nat.pow 2 52 then ofMagnitude negative mantissa
    else ofMagnitude negative ((exponent + 1075).toNat * Nat.pow 2 52 + (mantissa - Nat.pow 2 52))

/-- The double closest to a whole number. -/
def ofInt (n : Int) : Float :=
  ofFraction (decide (n < 0)) n.natAbs 1

/-- The whole number a double stands for, if it does. -/
def whole? (x : Float) : Option Int :=
  (decode? x).bind Binary.whole?

/-- Truncated toward zero and clamped to `low` and `high`; a NaN gives zero. -/
def clampToInt (low high : Int) (x : Float) : Int :=
  match decode? x with
  | some b => max low (min high b.truncate)
  | none => if isNaN x then 0 else if isNegative x then low else high

def leastInt64 : Int := -(Nat.pow 2 63 : Int)

def greatestInt64 : Int := (Nat.pow 2 63 : Int) - 1

/-- The 64-bit whole number closest to `x` among those not past it toward zero. -/
def toInt64 (x : Float) : Int :=
  clampToInt leastInt64 greatestInt64 x

def withSignOf (x magnitude : Float) : Float :=
  if isNegative x then -magnitude else magnitude

/-- Half-to-even rounding. Adding `2 ^ 52` leaves no room for a fraction, and the addition itself
rounds ties to even. -/
def roundEven (x : Float) : Float :=
  let a := x.abs
  if a < 4503599627370496.0 then
    withSignOf x ((a + 4503599627370496.0) - 4503599627370496.0)
  else x

/-- The whole part, keeping the sign of zero. -/
def truncate (x : Float) : Float :=
  if isNegative x then x.ceil else x.floor

/-- `base ^ n` by squaring from the low bit on. -/
def powNat (base result : Float) (n : Nat) : Float :=
  let result := if n % 2 = 1 then result * base else result
  if n / 2 = 0 then result else powNat (base * base) result (n / 2)
termination_by n
decreasing_by omega

/-- An integral power; a negative one is the reciprocal of its opposite. -/
def powInt (base : Float) (n : Int) : Float :=
  let p := powNat base 1.0 n.natAbs
  if n < 0 then 1.0 / p else p

def nan : Float := Float.ofBits 0x7ff8000000000000

def infinity : Float := Float.ofBits 0x7ff0000000000000

end CardPress.Double
