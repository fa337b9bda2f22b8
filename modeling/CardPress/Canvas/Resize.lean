import CardPress.Canvas

/-!
# Resizing

Resampling with a windowed sinc of three lobes, first in the columns and then in the rows, on
channels in single precision. Colours are not weighted by their opacity.
-/

namespace CardPress.Resize

def pi : Float32 := Float32.ofBits 0x40490fdb

def sinc (t : Float32) : Float32 :=
  if t == 0 then 1 else
    let a := t * pi
    a.sin / a

/-- How far the kernel reaches. -/
def lobes : Float32 := 3

def kernel (x : Float32) : Float32 :=
  if x.abs < lobes then sinc x * sinc (x / lobes) else 0

/-- The source samples that make one target sample: the place of the first and the weights from
there on, which add up to one. -/
structure Window where
  first : Nat
  weights : Array Float32

/-- A whole number that fits between two bounds, of which the upper one wins. -/
def clampInt (low high n : Int) : Int :=
  min high (max low n)

/-- The window of target sample `o` when `old` samples become `new` ones. -/
def window (old new o : Nat) : Window :=
  let ratio := Float32.ofNat old / Float32.ofNat new
  let spread := if ratio < 1 then 1 else ratio
  let support := lobes * spread
  let centre := (Float32.ofNat o + 0.5) * ratio
  let left := (clampInt 0 (old - 1) (centre - support).floor.toInt64.toInt).toNat
  let right := (clampInt (left + 1) old (centre + support).ceil.toInt64.toInt).toNat
  let centre := centre - 0.5
  let weights := Array.ofFn fun i : Fin (right - left) =>
    kernel ((Float32.ofNat (left + i) - centre) / spread)
  let sum := weights.foldl (· + ·) 0
  ⟨left, weights.map (· / sum)⟩

/-- Four channels of a pixel between two resamplings. -/
structure Sample where
  red : Float32
  green : Float32
  blue : Float32
  alpha : Float32

namespace Sample

instance : Inhabited Sample := ⟨⟨0, 0, 0, 0⟩⟩

def ofRgba (p : Rgba) : Sample :=
  ⟨p.red.toFloat32, p.green.toFloat32, p.blue.toFloat32, p.alpha.toFloat32⟩

/-- Brought into range and rounded to the nearest whole number, a half going up. -/
def channel (x : Float32) : UInt8 :=
  if x < 0 then 0 else if 255 < x then 255 else x.round.toUInt8

def toRgba (s : Sample) : Rgba :=
  ⟨channel s.red, channel s.green, channel s.blue, channel s.alpha⟩

def addScaled (s t : Sample) (w : Float32) : Sample :=
  ⟨s.red + t.red * w, s.green + t.green * w, s.blue + t.blue * w, s.alpha + t.alpha * w⟩

end Sample

/-- The weighted sum over a window of what stands at each place. -/
def Window.apply (w : Window) (source : Nat → Sample) : Sample :=
  (w.weights.foldl (fun (s, i) weight => (s.addScaled (source i) weight, i + 1))
    (⟨0, 0, 0, 0⟩, w.first)).1

/-- Columns resampled: samples in rows from the top. -/
def vertical (c : Canvas) (height : Nat) : Array Sample :=
  let windows := Array.ofFn fun y : Fin height => window c.height height y
  Array.ofFn fun i : Fin (c.width * height) =>
    let x := i % c.width
    match windows[i / c.width]? with
    | some w => w.apply fun y => .ofRgba (c.pixel x y)
    | none => default

end Resize

namespace Canvas

open Resize

/-- The same picture at another size. -/
def resize (c : Canvas) (width height : Nat) : Canvas :=
  if c.width = 0 ∨ c.height = 0 then blank width height
  else if c.width = width ∧ c.height = height then c
  else
    let columns := vertical c height
    let windows := Array.ofFn fun x : Fin width => window c.width width x
    ofFn width height fun x y =>
      match windows[x]? with
      | some w => (w.apply fun i => columns.getD (y * c.width + i) default).toRgba
      | none => .transparent

@[simp] theorem width_resize (c : Canvas) (width height : Nat) :
    (c.resize width height).width = width := by
  unfold resize
  split
  · rfl
  · split
    · next h => exact h.1
    · rfl

@[simp] theorem height_resize (c : Canvas) (width height : Nat) :
    (c.resize width height).height = height := by
  unfold resize
  split
  · rfl
  · split
    · next h => exact h.2
    · rfl

end Canvas

end CardPress
