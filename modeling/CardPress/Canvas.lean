/-!
# Canvases

A rectangle of pixels with an alpha channel. Everything here is geometry: blank canvases, looking up
pixels and cutting out boxes.
-/

namespace CardPress

/-- A colour with eight bits for each of red, green, blue and opacity. -/
structure Rgba where
  red : UInt8
  green : UInt8
  blue : UInt8
  alpha : UInt8
  deriving DecidableEq, Repr

namespace Rgba

def transparent : Rgba := ⟨0, 0, 0, 0⟩

instance : Inhabited Rgba := ⟨transparent⟩

end Rgba

/-- Pixels in rows from the top, each from the left. -/
structure Canvas where
  width : Nat
  height : Nat
  pixels : Array Rgba
  size_eq : pixels.size = width * height

namespace Canvas

/-- The canvas whose pixel at `(x, y)` is `colour x y`. -/
def ofFn (width height : Nat) (colour : Nat → Nat → Rgba) : Canvas where
  width := width
  height := height
  pixels := Array.ofFn fun i : Fin (width * height) => colour (i % width) (i / width)
  size_eq := Array.size_ofFn

/-- Fully transparent. -/
def blank (width height : Nat) : Canvas where
  width := width
  height := height
  pixels := Array.replicate (width * height) .transparent
  size_eq := Array.size_replicate

instance : Inhabited Canvas := ⟨blank 0 0⟩

/-- The pixel at a point of the canvas. -/
def pixel? (c : Canvas) (x y : Nat) : Option Rgba :=
  if x < c.width ∧ y < c.height then c.pixels[y * c.width + x]? else none

/-- The pixel at a point; outside, everything is transparent. -/
def pixel (c : Canvas) (x y : Nat) : Rgba :=
  (c.pixel? x y).getD .transparent

/-- The pixels changed one by one. -/
def mapPixels (c : Canvas) (f : Rgba → Rgba) : Canvas where
  width := c.width
  height := c.height
  pixels := c.pixels.map f
  size_eq := by simp [c.size_eq]

/-- The part of the canvas inside a box, whose sides are first brought inside the canvas and then
into their order, with a way to compute differences. -/
def cropWith {m : Type → Type} [Monad m] (difference : Nat → Nat → m Nat) (c : Canvas)
    (left top right bottom : Nat) : m Canvas := do
  let right := min right c.width
  let bottom := min bottom c.height
  let left := min left right
  let top := min top bottom
  let width ← difference right left
  let height ← difference bottom top
  return ofFn width height fun x y => c.pixel (left + x) (top + y)

/-- The part of the canvas inside a box. -/
def crop (c : Canvas) (left top right bottom : Nat) : Canvas :=
  (c.cropWith (fun a b => (pure (a - b) : Id Nat)) left top right bottom).run

@[simp] theorem width_ofFn (width height : Nat) (colour : Nat → Nat → Rgba) :
    (ofFn width height colour).width = width := rfl

@[simp] theorem height_ofFn (width height : Nat) (colour : Nat → Nat → Rgba) :
    (ofFn width height colour).height = height := rfl

@[simp] theorem width_blank (width height : Nat) : (blank width height).width = width := rfl

@[simp] theorem height_blank (width height : Nat) : (blank width height).height = height := rfl

theorem index_lt {width height x y : Nat} (hx : x < width) (hy : y < height) :
    y * width + x < width * height := by
  have : (y + 1) * width ≤ height * width := Nat.mul_le_mul_right width hy
  rw [Nat.add_mul, Nat.one_mul, Nat.mul_comm height] at this
  omega

theorem pixel?_ofFn (width height : Nat) (colour : Nat → Nat → Rgba) (x y : Nat) :
    (ofFn width height colour).pixel? x y =
      if x < width ∧ y < height then some (colour x y) else none := by
  by_cases h : x < width ∧ y < height
  · have hw : 0 < width := Nat.lt_of_le_of_lt (Nat.zero_le x) h.1
    have hx : (y * width + x) % width = x := by
      rw [Nat.mul_comm, Nat.mul_add_mod, Nat.mod_eq_of_lt h.1]
    have hy : (y * width + x) / width = y := by
      rw [Nat.mul_comm, Nat.mul_add_div hw, Nat.div_eq_of_lt h.1, Nat.add_zero]
    simp [pixel?, ofFn, index_lt h.1 h.2, hx, hy, h]
  · simp [pixel?, h]

theorem pixel_ofFn {width height : Nat} (colour : Nat → Nat → Rgba) {x y : Nat} (hx : x < width)
    (hy : y < height) : (ofFn width height colour).pixel x y = colour x y := by
  simp [pixel, pixel?_ofFn, hx, hy]

end Canvas

end CardPress
