import CardPress.Canvas

/-!
# Pasting

A layer is laid over a canvas with its top left corner at any point, inside or outside; what sticks
out is cut off. Each pixel under the layer is blended by itself.
-/

namespace CardPress

namespace Rgba

/-- A channel as a fraction of its greatest value. -/
def fraction (channel : UInt8) : Float32 :=
  channel.toFloat32 / 255

/-- A fraction as a channel, rounded down. -/
def channel (fraction : Float32) : UInt8 :=
  (255 * fraction).toUInt8

/-- One colour seen through another one. Opaque colours hide what is below. -/
def blendOver (top bottom : Rgba) : Rgba :=
  if top.alpha = 0 then bottom
  else if top.alpha = 255 then top
  else
    let ta := fraction top.alpha
    let ba := fraction bottom.alpha
    let alpha := ba + ta - ba * ta
    let mix (t b : UInt8) : UInt8 :=
      channel ((fraction t * ta + fraction b * ba * (1 - ta)) / alpha)
    ⟨mix top.red bottom.red, mix top.green bottom.green, mix top.blue bottom.blue, channel alpha⟩

end Rgba

namespace Canvas

/-- The pixel at a point that may lie outside. -/
def pixelAt? (c : Canvas) (x y : Int) : Option Rgba :=
  match x, y with
  | .ofNat x, .ofNat y => c.pixel? x y
  | _, _ => none

/-- Lay a layer over the canvas, its top left corner at `(x, y)`. -/
def paste (c layer : Canvas) (x y : Int) : Canvas :=
  ofFn c.width c.height fun i j =>
    let bottom := c.pixel i j
    match layer.pixelAt? (i - x) (j - y) with
    | some top => top.blendOver bottom
    | none => bottom

/-- Lay another canvas over this one, corner to corner. -/
def composite (c layer : Canvas) : Canvas :=
  c.paste layer 0 0

@[simp] theorem width_paste (c layer : Canvas) (x y : Int) : (c.paste layer x y).width = c.width :=
  rfl

@[simp] theorem height_paste (c layer : Canvas) (x y : Int) :
    (c.paste layer x y).height = c.height := rfl

/-- Outside the layer nothing changes. -/
theorem pixel_paste_of_none {c layer : Canvas} {x y : Int} {i j : Nat} (hi : i < c.width)
    (hj : j < c.height) (h : layer.pixelAt? (i - x) (j - y) = none) :
    (c.paste layer x y).pixel i j = c.pixel i j := by
  simp [paste, pixel_ofFn, hi, hj, h]

end Canvas

end CardPress
