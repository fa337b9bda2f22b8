import CardPress.Canvas
import CardPress.Json.Reader
import CardPress.Value.Reading

/-!
# Colours of parameters

A colour is a list of three or four channels or pairs of hexadecimal digits, with or without a
number sign in front. Without a fourth channel it is opaque.
-/

namespace CardPress.Rgba

/-- A number brought between 0 and 255 and rounded, a half going up. -/
def channelOf (x : Float) : UInt8 :=
  match Double.decode? x with
  | some b => UInt8.ofNat (min 255 b.roundAway.toNat)
  | none => if Double.isNaN x || Double.isNegative x then 0 else 255

/-- The value of two digits; a plus sign may stand in place of the first. -/
def pair? (a b : Char) : Option UInt8 := do
  let high ← if a = '+' then some 0 else Json.hexDigit? a
  return UInt8.ofNat (16 * high + (← Json.hexDigit? b))

def pairs? : List Char → Option (List UInt8)
  | [] => some []
  | [_] => none
  | a :: b :: rest => do return (← pair? a b) :: (← pairs? rest)

/-- What follows one number sign, if there is one. -/
def dropSign : List Char → List Char
  | '#' :: rest => rest
  | cs => cs

def ofHex? (s : String) : Option Rgba := do
  match ← pairs? (dropSign s.toList) with
  | [r, g, b] => some ⟨r, g, b, 255⟩
  | [r, g, b, a] => some ⟨r, g, b, a⟩
  | _ => none

def readChannel (v : Value) : Except Fault UInt8 :=
  channelOf <$> v.readNumber "fill"

def ofValue : Value → Except Fault Rgba
  | .sequence [r, g, b] => do
    return ⟨← readChannel r, ← readChannel g, ← readChannel b, 255⟩
  | .sequence [r, g, b, a] => do
    return ⟨← readChannel r, ← readChannel g, ← readChannel b, ← readChannel a⟩
  | .sequence items => Value.invalid "fill" "3 or 4 channels" (Value.sequenceText items)
  | .string s =>
    match ofHex? s with
    | some c => .ok c
    | none => Value.invalid "fill" "#rrggbb or #rrggbbaa" s
  | other => Value.invalid "fill" "colour" other.kind.name

end CardPress.Rgba
