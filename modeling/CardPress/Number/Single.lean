import CardPress.Number.Decimal

/-!
# Single-precision numbers

Font sizes and pixel arithmetic use 32-bit floating-point numbers. As for doubles, order and text
are read off the bits.
-/

namespace CardPress.Single

def isNegative (x : Float32) : Bool :=
  x.toBits.toNat / Nat.pow 2 31 = 1

/-- The bits below the sign. -/
def magnitude (x : Float32) : Nat :=
  x.toBits.toNat % Nat.pow 2 31

def infiniteMagnitude : Nat := 0x7f800000

def isNaN (x : Float32) : Bool :=
  infiniteMagnitude < magnitude x

/-- A whole number that orders single-precision numbers as their values do. -/
def key? (x : Float32) : Option Int :=
  if isNaN x then none
  else some (if isNegative x then -(magnitude x : Int) else magnitude x)

/-- IEEE equality. -/
def equal (x y : Float32) : Bool :=
  match key? x, key? y with
  | some a, some b => a == b
  | _, _ => false

/-- A finite number taken apart. -/
def decode? (x : Float32) : Option Binary :=
  if magnitude x < infiniteMagnitude then
    let field : Nat := magnitude x / Nat.pow 2 23
    let fraction : Nat := magnitude x % Nat.pow 2 23
    some <|
      if field = 0 then ⟨isNegative x, fraction, -149⟩
      else ⟨isNegative x, fraction + Nat.pow 2 23, (field : Int) - 150⟩
  else none

/-- Shortest digits, never an exponent. -/
def text (x : Float32) : String :=
  let sign := if isNegative x then "-" else ""
  match decode? x with
  | some b => sign ++ (Decimal.shortest .single b.mantissa b.exponent).positional
  | none => if isNaN x then "NaN" else sign ++ "inf"

/-- The whole part, keeping the sign of zero. -/
def truncate (x : Float32) : Float32 :=
  if isNegative x then x.ceil else x.floor

end CardPress.Single
