import CardPress.Bytes
import CardPress.Canvas

/-!
# BMP files

Rows from the bottom, each filled up to whole words, with the channels in reverse. Files are written
with four channels and can be read with three or four.
-/

namespace CardPress.Bmp

/-- Where each channel of a pixel of 32 bits stands; zero is for a channel that is absent. -/
structure Masks where
  red : Nat
  green : Nat
  blue : Nat
  alpha : Nat
  deriving DecidableEq

def Masks.standard : Masks := ⟨0xff0000, 0xff00, 0xff, 0xff000000⟩

def Masks.opaque_ : Masks := { standard with alpha := 0 }

/-- The masks of a header with `size` bytes, if it says that it has some. -/
def masks? (b : ByteArray) (size compression : Nat) : Option Masks :=
  match compression with
  | 0 => some .opaque_
  | 3 => do
    let alpha ← if 56 ≤ size then Bytes.little32? b 66 else some 0
    return ⟨← Bytes.little32? b 54, ← Bytes.little32? b 58, ← Bytes.little32? b 62, alpha⟩
  | _ => none

/-- The byte that a mask of eight bits selects. -/
def select? (mask : Nat) (pixel : List UInt8) : Option UInt8 :=
  match mask with
  | 0xff => pixel[0]?
  | 0xff00 => pixel[1]?
  | 0xff0000 => pixel[2]?
  | 0xff000000 => pixel[3]?
  | 0 => some 255
  | _ => none

def decode? (b : ByteArray) : Option Canvas := do
  if !Bytes.hasAt b 0 [0x42, 0x4d] then failure
  let start ← Bytes.little32? b 10
  let size ← Bytes.little32? b 14
  let width := Bytes.signed 32 (← Bytes.little32? b 18)
  let height := Bytes.signed 32 (← Bytes.little32? b 22)
  let depth ← Bytes.little16? b 28
  let masks ← masks? b size (← Bytes.little32? b 30)
  if size < 40 ∨ width ≤ 0 ∨ height = 0 ∨ (depth ≠ 24 ∧ depth ≠ 32) then failure
  let width := width.toNat
  let rows := height.natAbs
  let stride := (width * depth + 31) / 32 * 4
  let data ← Bytes.slice? b start (stride * rows)
  let pixel? (x y : Nat) : Option Rgba := do
    let row := if 0 < height then rows - 1 - y else y
    let place := row * stride + x * (depth / 8)
    let pixel := (data.extract place (place + depth / 8)).toList
    return ⟨← select? masks.red pixel, ← select? masks.green pixel, ← select? masks.blue pixel,
      ← select? masks.alpha pixel⟩
  if (pixel? 0 0).isNone then failure
  return Canvas.ofFn width rows fun x y => (pixel? x y).getD .transparent

/-- The size of the header for the masks and the colour space. -/
def headerSize : Nat := 108

def encode (c : Canvas) : ByteArray :=
  let size := c.width * c.height * 4
  let m := Masks.standard
  let header := Bytes.ofAscii "BM" ++ Bytes.little32 (14 + headerSize + size) ++ Bytes.little32 0 ++
    Bytes.little32 (14 + headerSize) ++ Bytes.little32 headerSize ++ Bytes.little32 c.width ++
    Bytes.little32 c.height ++ Bytes.little16 1 ++ Bytes.little16 32 ++ Bytes.little32 3 ++
    Bytes.little32 size ++ ⟨Array.replicate 16 0⟩ ++ Bytes.little32 m.red ++
    Bytes.little32 m.green ++ Bytes.little32 m.blue ++ Bytes.little32 m.alpha ++
    Bytes.little32 0x73524742 ++ ⟨Array.replicate 48 0⟩
  (List.range c.height).foldr (fun y b =>
    (List.range c.width).foldl (fun b x =>
      let p := c.pixel x y
      (((b.push p.blue).push p.green).push p.red).push p.alpha) b) header

end CardPress.Bmp
