import CardPress.Canvas.Mix

/-!
# Rotating

Turning a canvas about its centre, keeping its size. Every target pixel is traced back into the
source and blended from the four pixels around; where one of them is missing the target is
transparent.
-/

namespace CardPress.Rotate

/-- A row of a plane transformation: `x`, `y` and constant. -/
structure Row where
  x : Float32
  y : Float32
  one : Float32

/-- A transformation of the plane, whose third row is `0 0 1`. -/
structure Affine where
  across : Row
  down : Row

/-- A row times a matrix whose third row is `0 0 1`; every product and sum is carried out. -/
def Row.times (r : Row) (m : Affine) : Row where
  x := r.x * m.across.x + r.y * m.down.x + r.one * 0
  y := r.x * m.across.y + r.y * m.down.y + r.one * 0
  one := r.x * m.across.one + r.y * m.down.one + r.one * 1

def Affine.times (a b : Affine) : Affine :=
  ⟨a.across.times b, a.down.times b⟩

def shift (x y : Float32) : Affine :=
  ⟨⟨1, 0, x⟩, ⟨0, 1, y⟩⟩

/-- By an angle in radians, counter-clockwise as the target is traced back. -/
def rotation (radians : Float32) : Affine :=
  let s := radians.sin
  let c := radians.cos
  ⟨⟨c, s, 0⟩, ⟨-s, c, 0⟩⟩

/-- Where the target pixels of a canvas come from. -/
def source (width height : Nat) (radians : Float32) : Affine :=
  let x := Float32.ofNat width / 2
  let y := Float32.ofNat height / 2
  (shift x y).times ((rotation radians).times (shift (-x) (-y)))

def Row.apply (r : Row) (x y : Float32) : Float32 :=
  r.x * x + r.y * y + r.one

/-- The colour between pixels. -/
def sample (c : Canvas) (x y : Float32) : Rgba :=
  let left := x.floor
  let right := left + 1
  let top := y.floor
  let bottom := top + 1
  if 0 ≤ left && right < Float32.ofNat c.width && 0 ≤ top && bottom < Float32.ofNat c.height then
    let pixel (x y : Float32) : Rgba := c.pixel x.toUInt32.toNat y.toUInt32.toNat
    let across := x - left
    Rgba.mix (y - top) (Rgba.mix across (pixel left top) (pixel right top))
      (Rgba.mix across (pixel left bottom) (pixel right bottom))
  else .transparent

/-- One degree in radians. -/
def degree : Float := Float.ofBits 0x3f91df46a2529d39

end Rotate

namespace Canvas

open Rotate

/-- Turn the canvas counter-clockwise. -/
def rotate (c : Canvas) (degrees : Float) : Canvas :=
  let m := source c.width c.height (-(degrees * degree)).toFloat32
  ofFn c.width c.height fun x y =>
    let x := Float32.ofNat x
    let y := Float32.ofNat y
    sample c (m.across.apply x y) (m.down.apply x y)

@[simp] theorem width_rotate (c : Canvas) (degrees : Float) : (c.rotate degrees).width = c.width :=
  rfl

@[simp] theorem height_rotate (c : Canvas) (degrees : Float) :
    (c.rotate degrees).height = c.height := rfl

end Canvas

end CardPress
