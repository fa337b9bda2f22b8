import CardPress.Canvas
import CardPress.Number.Double

/-!
# Mixing and fading colours

A colour between two others, channel by channel and opacity included, rounded down. Turned pictures
and the edges of letters are mixed this way. Fading makes a canvas more transparent as a whole.
-/

namespace CardPress

namespace Rgba

/-- Brought into range and rounded down; what is no number counts as the greatest. -/
def clampChannel (x : Float32) : UInt8 :=
  if x < 255 then (if 0 < x then x.toUInt8 else 0) else 255

def mixChannel (share : Float32) (u v : UInt8) : UInt8 :=
  clampChannel ((1 - share) * u.toFloat32 + share * v.toFloat32)

/-- The colour that is `share` of the way from one to another. -/
def mix (share : Float32) (p q : Rgba) : Rgba :=
  ⟨mixChannel share p.red q.red, mixChannel share p.green q.green,
    mixChannel share p.blue q.blue, mixChannel share p.alpha q.alpha⟩

end Rgba

namespace Canvas

/-- Change the pixel at a point, if the canvas has it. -/
def modify (c : Canvas) (x y : Int) (f : Rgba → Rgba) : Canvas :=
  if 0 ≤ x ∧ x < c.width ∧ 0 ≤ y ∧ y < c.height then
    { c with
      pixels := c.pixels.modify (y.toNat * c.width + x.toNat) f
      size_eq := by simp [c.size_eq] }
  else c

@[simp] theorem width_modify (c : Canvas) (x y : Int) (f : Rgba → Rgba) :
    (c.modify x y f).width = c.width := by
  unfold modify
  split <;> rfl

@[simp] theorem height_modify (c : Canvas) (x y : Int) (f : Rgba → Rgba) :
    (c.modify x y f).height = c.height := by
  unfold modify
  split <;> rfl

/-! ## Fading -/

/-- Between nothing and all of it. -/
def clampUnit (x : Float) : Float :=
  if x < 0 then 0 else if 1 < x then 1 else x

/-- An opacity scaled by a factor and rounded to the nearest whole number, a half going up. -/
def fadedAlpha (factor : Float) (alpha : UInt8) : UInt8 :=
  let scaled := alpha.toFloat * factor
  match Double.decode? scaled with
  | some b => UInt8.ofNat b.roundAway.toNat
  | none => 0

/-- Scale every opacity by the same factor, brought between zero and one. -/
def fade (c : Canvas) (factor : Float) : Canvas :=
  let factor := clampUnit factor
  c.mapPixels fun p => { p with alpha := fadedAlpha factor p.alpha }

@[simp] theorem width_fade (c : Canvas) (factor : Float) : (c.fade factor).width = c.width := rfl

@[simp] theorem height_fade (c : Canvas) (factor : Float) : (c.fade factor).height = c.height := rfl

end Canvas

end CardPress
