import CardPress.Number.Double

/-!
# Decimal text of binary numbers

`Decimal.shortest` gives the fewest digits that read back as the same number, the closest such
digits if there are several. Reading a decimal is `Decimal.toDouble`, correctly rounded.
-/

namespace CardPress

/-- The number `digits * 10 ^ exponent`. -/
structure Decimal where
  digits : Nat
  exponent : Int
  deriving DecidableEq, Repr

namespace Decimal

/-- Numerator and denominator. -/
def fraction (d : Decimal) : Nat × Nat :=
  match d.exponent with
  | .ofNat e => (d.digits * Nat.pow 10 e, 1)
  | .negSucc e => (d.digits, Nat.pow 10 (e + 1))

def text (d : Decimal) : String :=
  toString d.digits

/-- The power of ten of the leading digit. -/
def leadingExponent (d : Decimal) : Int :=
  d.exponent + d.text.length - 1

/-! ## Shortest digits -/

/-- Whether `d` is closest to `mantissa * 2 ^ exponent` in the format. -/
def readsAs (format : BinaryFormat) (d : Decimal) (mantissa : Nat) (exponent : Int) : Bool :=
  format.nearest d.fraction.1 d.fraction.2 == some (mantissa, exponent)

/-- The largest `e` with `10 ^ e ≤ num / den`, for a positive fraction. Thirty-three tenths of a
bit make a digit, which places `e` up to a few candidates. -/
def floorLog10 (num den : Nat) : Int :=
  let bits : Int := (num.log2 : Int) - den.log2
  let guess := bits * 30103 / 100000
  let fits (e : Int) : Bool :=
    match e with
    | .ofNat e => den * Nat.pow 10 e ≤ num
    | .negSucc e => den ≤ num * Nat.pow 10 (e + 1)
  if fits (guess + 1) then guess + 1
  else if fits guess then guess
  else guess - 1

/-- The decimal with `count` digits next to `num / den` that reads back, the closer one if both
do; an exact tie goes to the even digit. -/
def neighbour? (format : BinaryFormat) (mantissa : Nat) (exponent : Int) (num den : Nat)
    (count : Nat) : Option Decimal :=
  let e := floorLog10 num den - (count - 1 : Nat)
  let (n, d) : Nat × Nat := match e with
    | .ofNat e => (num, den * Nat.pow 10 e)
    | .negSucc e => (num * Nat.pow 10 (e + 1), den)
  let below : Decimal := ⟨n / d, e⟩
  let above : Decimal := ⟨n / d + 1, e⟩
  match readsAs format below mantissa exponent, readsAs format above mantissa exponent with
  | true, false => some below
  | false, true => some above
  | true, true => some ⟨roundDivEven n d, e⟩
  | false, false => none

/-- Drop trailing zeros, at most `fuel` of them. -/
def strip (fuel : Nat) (d : Decimal) : Decimal :=
  match fuel with
  | 0 => d
  | fuel + 1 =>
    if d.digits ≠ 0 ∧ d.digits % 10 = 0 then strip fuel ⟨d.digits / 10, d.exponent + 1⟩ else d

/-- The exact decimal expansion. -/
def exact (mantissa : Nat) : Int → Decimal
  | .ofNat e => ⟨mantissa * Nat.pow 2 e, 0⟩
  | .negSucc e => ⟨mantissa * Nat.pow 5 (e + 1), -(e + 1 : Nat)⟩

/-- The fewest digits that read back. Seventeen always suffice for a double; the exact expansion
stands in if they should not. -/
def shortest (format : BinaryFormat) (mantissa : Nat) (exponent : Int) : Decimal :=
  if mantissa = 0 then ⟨0, 0⟩
  else
    let (num, den) := scaleFraction mantissa 1 exponent
    let found := (List.range 17).findSome? fun n =>
      neighbour? format mantissa exponent num den (n + 1)
    let d := found.getD (exact mantissa exponent)
    d.strip d.text.length

/-! ## Layouts -/

private def zeros (n : Nat) : String :=
  String.ofList (List.replicate n '0')

/-- Without an exponent: all digits before the point, or all zeros after it, are written out. -/
def positional (d : Decimal) : String :=
  match d.exponent with
  | .ofNat e => if d.digits = 0 then "0" else d.text ++ zeros e
  | .negSucc e =>
    let places := e + 1
    let padded := zeros (places + 1 - d.text.length) ++ d.text
    let digits := padded.toList
    String.ofList (digits.take (digits.length - places)) ++ "." ++
      String.ofList (digits.drop (digits.length - places))

/-- With an exponent: one digit before the point and a signed power of ten. -/
def scientific (d : Decimal) : String :=
  let e := d.leadingExponent
  let tail := String.ofList (d.text.toList.drop 1)
  String.ofList (d.text.toList.take 1) ++ (if tail.isEmpty then "" else "." ++ tail) ++
    "e" ++ (if e < 0 then "-" else "+") ++ toString e.natAbs

/-- The closest double; a decimal far past every double is settled by its leading digit. -/
def toDouble (negative : Bool) (d : Decimal) : Float :=
  if d.digits = 0 then Double.ofMagnitude negative 0
  else if 400 < d.leadingExponent then Double.ofMagnitude negative Double.infiniteMagnitude
  else if d.leadingExponent < -400 then Double.ofMagnitude negative 0
  else Double.ofFraction negative d.fraction.1 d.fraction.2

end Decimal

namespace Double

/-- The shortest decimal of a finite double's absolute value. -/
def shortest? (x : Float) : Option Decimal :=
  (decode? x).map fun b => Decimal.shortest .double b.mantissa b.exponent

private def signed (negative : Bool) (text : String) : String :=
  if negative then "-" ++ text else text

/-- The text of a double in messages: shortest digits, never an exponent. -/
def text (x : Float) : String :=
  match shortest? x with
  | some d => signed (isNegative x) d.positional
  | none => if isNaN x then "NaN" else signed (isNegative x) "inf"

end Double

end CardPress
