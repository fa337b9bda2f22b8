import CardPress.Font.Face

/-!
# Glyph outlines

The outline of a glyph is a list of lines and quadratic curves. Contours come as points on and off
the curve: between two points off it there is an unwritten one on it. A glyph may also be put
together from others.
-/

namespace CardPress.Font

structure Point where
  x : Float32
  y : Float32

namespace Point

/-- The point that is `t` of the way from one to another. -/
def lerp (t : Float32) (p q : Point) : Point :=
  ⟨p.x + t * (q.x - p.x), p.y + t * (q.y - p.y)⟩

def midpoint (p q : Point) : Point :=
  lerp 0.5 p q

end Point

inductive Curve where
  | line (start stop : Point)
  | quad (start control stop : Point)

namespace Curve

def points : Curve → List Point
  | line p q => [p, q]
  | quad p q r => [p, q, r]

def map (f : Point → Point) : Curve → Curve
  | line p q => line (f p) (f q)
  | quad p q r => quad (f p) (f q) (f r)

end Curve

/-! ## Contours -/

/-- A point of a contour as written. -/
structure Knot where
  point : Point
  isOnCurve : Bool

/-- A contour on the way: where it began, points off the curve that wait for their curve's end, and
the curves so far, latest first. -/
structure Pen where
  start : Option Point
  firstOff : Option Point
  lastOff : Option Point
  place : Point
  curves : List Curve

namespace Pen

def rest : Pen :=
  ⟨none, none, none, ⟨0, 0⟩, []⟩

def begin_ (pen : Pen) (p : Point) : Pen :=
  { pen with start := some p, place := p }

def lineTo (pen : Pen) (p : Point) : Pen :=
  { pen with place := p, curves := .line pen.place p :: pen.curves }

def quadTo (pen : Pen) (control p : Point) : Pen :=
  { pen with place := p, curves := .quad pen.place control p :: pen.curves }

def step (pen : Pen) (k : Knot) : Pen :=
  let p := k.point
  match pen.start, k.isOnCurve with
  | none, true => pen.begin_ p
  | none, false =>
    match pen.firstOff with
    | none => { pen with firstOff := some p }
    | some first => { pen.begin_ (first.midpoint p) with lastOff := some p }
  | some _, true =>
    match pen.lastOff with
    | none => pen.lineTo p
    | some control => { pen.quadTo control p with lastOff := none }
  | some _, false =>
    match pen.lastOff with
    | none => { pen with lastOff := some p }
    | some control => { pen.quadTo control (control.midpoint p) with lastOff := some p }

/-- Go back to where the contour began. -/
def close (pen : Pen) : Pen :=
  let pen := match pen.firstOff, pen.lastOff with
    | some first, some last => { pen.quadTo last (last.midpoint first) with lastOff := none }
    | _, _ => pen
  match pen.start, pen.firstOff.or pen.lastOff with
  | some p, some control => pen.quadTo control p
  | some p, none => pen.lineTo p
  | none, _ => pen

end Pen

def contourCurves (knots : List Knot) : List Curve :=
  (knots.foldl Pen.step .rest).close.curves.reverse

/-! ## Simple glyphs -/

open Bytes

/-- The flags of the remaining points, after those that are done, and the place behind them. A flag
may be written once for several points. -/
def readFlags? (b : ByteArray) : (remaining place : Nat) → Array Nat → Option (Array Nat × Nat)
  | 0, place, done => some (done, place)
  | remaining + 1, place, done => do
    let flags ← byte? b place
    if flags / 8 % 2 = 1 then
      let more ← byte? b (place + 1)
      if remaining < more then none
      else readFlags? b (remaining - more) (place + 2) (done ++ Array.replicate (more + 1) flags)
    else readFlags? b remaining (place + 1) (done.push flags)
termination_by remaining => remaining
decreasing_by
  · omega
  · omega

/-- The coordinates along one axis, each as a difference from the one before, and the place behind
them. `short` marks a difference of one byte and `same` its sign, or that there is none. -/
def readCoordinates? (b : ByteArray) (short same : Nat) :
    List Nat → (place : Nat) → (last : Int) → Option (List Int × Nat)
  | [], place, _ => some ([], place)
  | flags :: rest, place, last => do
    let isOne := flags / short % 2 = 1
    let isSame := flags / same % 2 = 1
    let (change, size) ←
      if isOne then do
        let n ← byte? b place
        some (if isSame then (n : Int) else -(n : Int), 1)
      else if isSame then some (0, 0)
      else do some (signed 16 (← big16? b place), 2)
    let (more, stop) ← readCoordinates? b short same rest (place + size) (last + change)
    return ((last + change) :: more, stop)

/-- Cut a list at the given last places. -/
def splitAfter {α : Type} (items : List α) (start : Nat) : List Nat → List (List α)
  | [] => []
  | last :: rest =>
    let count := last + 1 - start
    items.take count :: splitAfter (items.drop count) (last + 1) rest

/-- The contours of a simple glyph, whose bytes after the header are at `place`. -/
def readContours? (b : ByteArray) (place count : Nat) : Option (List (List Knot)) := do
  let ends ← (List.range count).mapM fun i => big16? b (place + 2 * i)
  let total := (← ends.getLast?) + 1
  if total = 1 then return []
  let place := place + 2 * count
  let instructions ← big16? b place
  let (flags, place) ← readFlags? b total (place + 2 + instructions) #[]
  let flags := flags.toList
  let (xs, place) ← readCoordinates? b 2 16 flags place 0
  let (ys, _) ← readCoordinates? b 4 32 flags place 0
  let knots := (flags.zip (xs.zip ys)).map fun (flags, x, y) =>
    Knot.mk ⟨Float32.ofInt x, Float32.ofInt y⟩ (flags % 2 == 1)
  return splitAfter knots 0 ends

/-! ## Glyphs -/

/-- A linear map and a shift. -/
structure Transform where
  a : Float32
  b : Float32
  c : Float32
  d : Float32
  e : Float32
  f : Float32

namespace Transform

def identity : Transform := ⟨1, 0, 0, 1, 0, 0⟩

/-- First `t`, then `s`. -/
def after (s t : Transform) : Transform where
  a := s.a * t.a + s.c * t.b
  b := s.b * t.a + s.d * t.b
  c := s.a * t.c + s.c * t.d
  d := s.b * t.c + s.d * t.d
  e := s.a * t.e + s.c * t.f + s.e
  f := s.b * t.e + s.d * t.f + s.f

def apply (t : Transform) (p : Point) : Point :=
  ⟨t.a * p.x + t.c * p.y + t.e, t.b * p.x + t.d * p.y + t.f⟩

end Transform

/-- A number with fourteen bits after the point. -/
def fixed14? (b : ByteArray) (place : Nat) : Option Float32 := do
  return Float32.ofInt (signed 16 (← big16? b place)) / 16384

/-- The parts of a glyph that is put together: each is a glyph and where it goes. -/
def readParts? (b : ByteArray) : (fuel place : Nat) → Option (List (Nat × Transform))
  | 0, _ => none
  | fuel + 1, place => do
    let flags ← big16? b place
    let glyph ← big16? b (place + 2)
    let has (bit : Nat) : Bool := flags / bit % 2 == 1
    let (x, y, place) ←
      if has 1 then do
        some (signed 16 (← big16? b (place + 4)), signed 16 (← big16? b (place + 6)), place + 8)
      else do
        some (signed 8 (← byte? b (place + 4)), signed 8 (← byte? b (place + 5)), place + 6)
    let shift (n : Int) : Float32 := if has 2 then Float32.ofInt n else 0
    let at_ (i : Nat) : Option Float32 := fixed14? b (place + 2 * i)
    let (t, size) ←
      if has 128 then do
        some (Transform.mk (← at_ 0) (← at_ 1) (← at_ 2) (← at_ 3) (shift x) (shift y), 8)
      else if has 64 then do
        some (Transform.mk (← at_ 0) 0 0 (← at_ 1) (shift x) (shift y), 4)
      else if has 8 then do
        let scale ← at_ 0
        some (Transform.mk scale 0 0 scale (shift x) (shift y), 2)
      else some (Transform.mk 1 0 0 1 (shift x) (shift y), 0)
    if has 32 then return (glyph, t) :: (← readParts? b fuel (place + size))
    else return [(glyph, t)]

namespace Face

/-- The bytes of a glyph; a glyph without an outline has none. -/
def glyphData? (f : Face) (glyph : Nat) : Option ByteArray := do
  let offset? (i : Nat) : Option Nat :=
    if f.longOffsets then big32? f.loca (4 * i) else (2 * ·) <$> big16? f.loca (2 * i)
  let start ← offset? glyph
  let stop ← offset? (glyph + 1)
  if start < stop then slice? f.glyf start (stop - start) else none

/-- The curves of a glyph from its bytes; parts nest no deeper than `depth`. -/
def curves? (f : Face) : (depth : Nat) → Transform → ByteArray → Option (List Curve)
  | 0, _, _ => none
  | depth + 1, t, b => do
    let count := signed 16 (← big16? b 0)
    if 0 < count then
      let contours ← readContours? b 10 count.toNat
      return (contours.flatMap contourCurves).map (Curve.map t.apply)
    else if count < 0 then
      let parts := (readParts? b b.size 10).getD []
      let curves ← parts.mapM fun (glyph, part) =>
        match f.glyphData? glyph with
        | some b => curves? f depth (t.after part) b
        | none => some []
      return curves.flatten
    else return []

/-- How deep parts may nest. -/
def partDepth : Nat := 32

end Face

/-- An outline with the box around all its points, in font units with the second axis going up. -/
structure Outline where
  curves : List Curve
  left : Float32
  bottom : Float32
  right : Float32
  top : Float32

def least (x y : Float32) : Float32 := if y < x then y else x

def greatest (x y : Float32) : Float32 := if x < y then y else x

/-- Toward zero. -/
def towardZero (x : Float32) : Float32 :=
  if x < 0 then x.ceil else x.floor

/-- The outline of a glyph, if it covers an area. -/
def Face.outline? (f : Face) (glyph : Nat) : Option Outline := do
  let curves ← f.curves? partDepth .identity (← f.glyphData? glyph)
  match curves.flatMap Curve.points with
  | [] => none
  | p :: ps =>
    let side (pick : Float32 → Float32 → Float32) (axis : Point → Float32) : Float32 :=
      towardZero (ps.foldl (fun m q => pick m (axis q)) (axis p))
    let o : Outline := {
      curves := curves
      left := side least (·.x)
      bottom := side least (·.y)
      right := side greatest (·.x)
      top := side greatest (·.y) }
    if o.left < o.right && o.bottom < o.top then some o else none

end CardPress.Font
