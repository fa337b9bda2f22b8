import CardPress.Font.Outline

/-!
# Coverage

How much of each pixel lies inside closed curves. Every line adds, row by row, the change in covered
area from each pixel to the next; the running sum of the changes is the coverage.
-/

namespace CardPress.Font

structure Coverage where
  width : Nat
  height : Nat
  /-- In rows from the top; a few more than there are pixels. -/
  changes : Array Float32

namespace Coverage

def empty (width height : Nat) : Coverage :=
  ⟨width, height, Array.replicate (width * height + 4) 0⟩

def add (c : Coverage) (i : Int) (change : Float32) : Coverage :=
  if 0 ≤ i then { c with changes := c.changes.modify i.toNat (· + change) } else c

/-- Toward zero, as a whole number. -/
def whole (x : Float32) : Int :=
  x.toInt64.toInt

/-- The part of a line within a row: `first` is the place of the row's first pixel, the line goes
from `x` to `xNext` and covers `d` of the row's height, downward or upward. -/
def addRow (c : Coverage) (first : Int) (x xNext d : Float32) : Coverage :=
  let left := if x < xNext then x else xNext
  let right := if x < xNext then xNext else x
  let leftFloor := left.floor
  let rightCeil := right.ceil
  let i := whole leftFloor
  let j := whole rightCeil
  if j ≤ i + 1 then
    let mean := 0.5 * (x + xNext) - leftFloor
    (c.add (first + i) (d - d * mean)).add (first + i + 1) (d * mean)
  else
    let slope := 1 / (right - left)
    let fromLeft := left - leftFloor
    let a := 0.5 * slope * (1 - fromLeft) * (1 - fromLeft)
    let fromRight := right - rightCeil + 1
    let b := 0.5 * slope * fromRight * fromRight
    let c := c.add (first + i) (d * a)
    let c :=
      if j = i + 2 then c.add (first + i + 1) (d * (1 - a - b))
      else
        let second := slope * (1.5 - fromLeft)
        let c := c.add (first + i + 1) (d * (second - a))
        let c := (List.range (j - i - 3).toNat).foldl
          (fun c k => c.add (first + i + 2 + k) (d * slope)) c
        let last := second + Float32.ofInt (j - i - 3) * slope
        c.add (first + j - 1) (d * (1 - last - b))
    c.add (first + j) (d * b)

/-- Lines flatter than this cover nothing. -/
def epsilon : Float32 := Float32.ofBits 0x34000000

def addLine (c : Coverage) (p q : Point) : Coverage :=
  if (p.y - q.y).abs <= epsilon then c
  else
    let isDown := p.y < q.y
    let direction : Float32 := if isDown then 1 else -1
    let (p, q) := if isDown then (p, q) else (q, p)
    let slope := (q.x - p.x) / (q.y - p.y)
    let start := if p.y < 0 then p.x - p.y * slope else p.x
    let top := p.y.toUInt64.toNat
    let bottom := min c.height q.y.ceil.toUInt64.toNat
    ((List.range' top (bottom - top)).foldl (fun (c, x) y =>
      let dy := least (Float32.ofNat (y + 1)) q.y - greatest (Float32.ofNat y) p.y
      let xNext := x + slope * dy
      let first : Int := y * c.width
      -- a part left of the very first pixel is dropped
      if first + whole (least x xNext).floor < 0 then (c, x)
      else (c.addRow first x xNext (dy * direction), xNext)) (c, start)).1

/-- The points between the ends of a curve that is cut into `n` lines of equal share. -/
def cuts (n : Nat) (p q r : Point) : List Point :=
  let share := 1 / Float32.ofNat n
  ((List.range (n - 1)).foldl (fun (t, ps) _ =>
    let t := t + share
    (t, Point.lerp t (Point.lerp t p q) (Point.lerp t q r) :: ps)) ((0 : Float32), [])).2.reverse

/-- A curve is drawn as one line if it is nearly straight, else as more of them the more it
bends. -/
def addQuad (c : Coverage) (p q r : Point) : Coverage :=
  let bendX := p.x - 2 * q.x + r.x
  let bendY := p.y - 2 * q.y + r.y
  let bend := bendX * bendX + bendY * bendY
  if bend < Float32.ofBits 0x3eaa7efa then c.addLine p r
  else
    let n := 1 + (3 * bend).sqrt.sqrt.floor.toUInt64.toNat
    let (c, last) := (cuts n p q r).foldl (fun (c, p) q => (c.addLine p q, q)) (c, p)
    c.addLine last r

def addCurve (c : Coverage) : Curve → Coverage
  | .line p q => c.addLine p q
  | .quad p q r => c.addQuad p q r

/-- The coverage of each pixel, between zero and one. -/
def values (c : Coverage) : Array Float32 :=
  ((c.changes.extract 0 (c.width * c.height)).foldl (fun (sum, done) change =>
    let sum := sum + change
    (sum, done.push (least sum.abs 1))) ((0 : Float32), #[])).2

end Coverage

end CardPress.Font
