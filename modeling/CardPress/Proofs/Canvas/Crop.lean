import CardPress.Canvas
import CardPress.Number.Machine
import Mathlib.Data.Nat.Notation

/-!
# Cutting boxes out of canvases

A box may stick out of the canvas, and its sides may be the wrong way round. The right side and the
bottom are brought inside the canvas first, the left side and the top inside these, so that the
differences of the sides are those of natural numbers. What is cut out of a piece can be cut out of
the whole at once.

## Main definitions

* `Box.clamped` — a box brought inside a canvas.
* `Box.shifted`, `Box.Inside` — boxes seen from another corner, and inside of a size.

## Main results

* `Canvas.cropWith_difference?` — the differences that a piece is computed with are natural numbers.
* `Canvas.cut_cut` — a piece of a piece is a piece of the whole.
* `Canvas.crop_exact` — the size of a piece, its pixels, and the pieces of it.
-/

namespace CardPress

/-- A box, by the distances of its sides from the left and from the top. -/
structure Box where
  left : ℕ
  top : ℕ
  right : ℕ
  bottom : ℕ

namespace Box

/-- The box brought inside a canvas of a size. -/
def clamped (box : Box) (width height : ℕ) : Box where
  left := min box.left (min box.right width)
  top := min box.top (min box.bottom height)
  right := min box.right width
  bottom := min box.bottom height

/-- The box seen from a point that lies to the left of it and above. -/
def shifted (box : Box) (left top : ℕ) : Box where
  left := left + box.left
  top := top + box.top
  right := left + box.right
  bottom := top + box.bottom

/-- The sides are the right way round and inside a canvas of a size. -/
structure Inside (box : Box) (width height : ℕ) : Prop where
  left : box.left ≤ box.right
  top : box.top ≤ box.bottom
  right : box.right ≤ width
  bottom : box.bottom ≤ height

variable {box inner : Box} {width height : ℕ}

theorem inside_clamped (box : Box) (width height : ℕ) :
    (box.clamped width height).Inside width height where
  left := Nat.min_le_right ..
  top := Nat.min_le_right ..
  right := Nat.min_le_right ..
  bottom := Nat.min_le_right ..

theorem Inside.clamped_eq (h : box.Inside width height) : box.clamped width height = box := by
  obtain ⟨hleft, htop, hright, hbottom⟩ := h
  obtain ⟨left, top, right, bottom⟩ := box
  simp_all [clamped]

/-- A box inside of a box inside of a canvas is inside of the canvas. -/
theorem Inside.shifted (h : box.Inside width height)
    (hinner : inner.Inside (box.right - box.left) (box.bottom - box.top)) :
    (inner.shifted box.left box.top).Inside box.right box.bottom := by
  obtain ⟨hleft, htop, hright, hbottom⟩ := h
  obtain ⟨hleft', htop', hright', hbottom'⟩ := hinner
  constructor <;> simp only [Box.shifted] <;> omega

theorem Inside.mono {width' height' : ℕ} (h : box.Inside width height) (hwidth : width ≤ width')
    (hheight : height ≤ height') : box.Inside width' height' :=
  ⟨h.left, h.top, Nat.le_trans h.right hwidth, Nat.le_trans h.bottom hheight⟩

end Box

namespace Canvas

open Machine

/-- Canvases of one size are the same if their colours agree inside. -/
theorem ofFn_congr {width height : ℕ} {f g : ℕ → ℕ → Rgba}
    (h : ∀ x < width, ∀ y < height, f x y = g x y) : ofFn width height f = ofFn width height g := by
  simp only [ofFn, mk.injEq, true_and]
  congr 1
  funext i
  have hwidth : 0 < width := Nat.pos_of_mul_pos_right (Nat.zero_lt_of_lt i.isLt)
  exact h _ (Nat.mod_lt _ hwidth) _ (Nat.div_lt_of_lt_mul i.isLt)

theorem pixel?_eq_some_pixel {c : Canvas} {x y : ℕ} (hx : x < c.width) (hy : y < c.height) :
    c.pixel? x y = some (c.pixel x y) := by
  have hindex : y * c.width + x < c.pixels.size := c.size_eq ▸ index_lt hx hy
  simp [pixel, pixel?, hx, hy, hindex]

/-- The part of the canvas inside a box. -/
def cut (c : Canvas) (box : Box) : Canvas :=
  c.crop box.left box.top box.right box.bottom

section

variable (c : Canvas) (box : Box)

/-- A piece is as large as the box that was brought inside, and its pixels are those from there
on. -/
theorem cut_eq_ofFn :
    let inside := box.clamped c.width c.height
    c.cut box = ofFn (inside.right - inside.left) (inside.bottom - inside.top) fun x y =>
      c.pixel (inside.left + x) (inside.top + y) :=
  rfl

/-- The differences of the sides are natural numbers. -/
theorem cropWith_difference? :
    c.cropWith difference? box.left box.top box.right box.bottom = some (c.cut box) := by
  have hleft := (box.inside_clamped c.width c.height).left
  have htop := (box.inside_clamped c.width c.height).top
  simp only [Box.clamped] at hleft htop
  simp [cropWith, difference?, cut, crop, hleft, htop]

theorem cut_of_inside {box : Box} (h : box.Inside c.width c.height) :
    c.cut box = ofFn (box.right - box.left) (box.bottom - box.top) fun x y =>
      c.pixel (box.left + x) (box.top + y) := by
  rw [cut_eq_ofFn, h.clamped_eq]

theorem width_cut :
    let inside := box.clamped c.width c.height
    (c.cut box).width = inside.right - inside.left := rfl

theorem height_cut :
    let inside := box.clamped c.width c.height
    (c.cut box).height = inside.bottom - inside.top := rfl

theorem pixel_cut {x y : ℕ} :
    let inside := box.clamped c.width c.height
    x < inside.right - inside.left → y < inside.bottom - inside.top →
      (c.cut box).pixel x y = c.pixel (inside.left + x) (inside.top + y) := by
  intro inside hx hy
  rw [cut_eq_ofFn]
  exact pixel_ofFn _ hx hy

/-- A piece of a piece is a piece of the whole. -/
theorem cut_cut (second : Box) :
    let inside := box.clamped c.width c.height
    (c.cut box).cut second =
      c.cut
        ((second.clamped (c.cut box).width (c.cut box).height).shifted inside.left inside.top) := by
  intro inside
  have hfirst := box.inside_clamped c.width c.height
  have hsecond := second.inside_clamped (c.cut box).width (c.cut box).height
  have hwhole := (hfirst.shifted hsecond).mono hfirst.right hfirst.bottom
  rw [cut_of_inside c hwhole, cut_eq_ofFn]
  simp only [Box.shifted, Nat.add_sub_add_left]
  refine ofFn_congr fun x hx y hy => ?_
  have hright := hsecond.right
  have hbottom := hsecond.bottom
  rw [pixel_cut c box (by rw [← width_cut]; omega) (by rw [← height_cut]; omega),
    Nat.add_assoc, Nat.add_assoc]

end

/-- For every box the differences of the sides are natural numbers once it has been brought inside;
they are the size of the piece, whose pixels are those of the canvas from the corner of the box on.
Cutting a second box out of the piece is cutting it, seen from the corner of the canvas, out of the
canvas, and there it does not reach beyond the first. -/
theorem crop_exact (c : Canvas) (box : Box) :
    let inside := box.clamped c.width c.height
    let piece := c.crop box.left box.top box.right box.bottom
    c.cropWith difference? box.left box.top box.right box.bottom = some piece ∧
      inside.Inside c.width c.height ∧
      piece.width = inside.right - inside.left ∧ piece.height = inside.bottom - inside.top ∧
      (∀ x < piece.width, ∀ y < piece.height, ∃ colour,
        c.pixel? (inside.left + x) (inside.top + y) = some colour ∧
          piece.pixel? x y = some colour) ∧
      ∀ second : Box,
        let both := (second.clamped piece.width piece.height).shifted inside.left inside.top
        both.Inside inside.right inside.bottom ∧
          piece.crop second.left second.top second.right second.bottom =
            c.crop both.left both.top both.right both.bottom := by
  intro inside piece
  have hinside : inside.Inside c.width c.height := box.inside_clamped _ _
  refine ⟨cropWith_difference? c box, hinside, width_cut c box, height_cut c box, ?_, ?_⟩
  · intro x hx y hy
    refine ⟨c.pixel (inside.left + x) (inside.top + y), ?_, ?_⟩
    · have hright := hinside.right
      have hbottom := hinside.bottom
      have hwidth : piece.width = inside.right - inside.left := width_cut c box
      have hheight : piece.height = inside.bottom - inside.top := height_cut c box
      exact pixel?_eq_some_pixel (by omega) (by omega)
    · rw [pixel?_eq_some_pixel hx hy]
      exact congrArg some (pixel_cut c box hx hy)
  · intro second both
    exact ⟨hinside.shifted (second.inside_clamped _ _), cut_cut c box second⟩

example : ((blank 10 10).crop 5 5 20 20).width = 5 := rfl

end Canvas

end CardPress
