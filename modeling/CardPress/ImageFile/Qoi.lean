import CardPress.Bytes
import CardPress.Canvas

/-!
# QOI files

Pixels one after the other, each as such, as a difference from the one before, as a run, or as a
place in a table of 64 pixels seen. Files are written with every pixel as such.
-/

namespace CardPress.Qoi

/-- What decoding a pixel depends on: the pixel before and the table. -/
structure Memory where
  last : Rgba
  seen : Array Rgba

def Memory.start : Memory where
  last := ⟨0, 0, 0, 255⟩
  seen := Array.replicate 64 .transparent

/-- The place of a pixel in the table. -/
def slot (p : Rgba) : Nat :=
  (p.red.toNat * 3 + p.green.toNat * 5 + p.blue.toNat * 7 + p.alpha.toNat * 11) % 64

def Memory.note (m : Memory) (p : Rgba) : Memory where
  last := p
  seen := m.seen.setIfInBounds (slot p) p

def shifted (channel : UInt8) (by_ bias : Nat) : UInt8 :=
  channel + UInt8.ofNat by_ - UInt8.ofNat bias

/-- A pixel, how often it comes, and how many bytes told it. -/
def next? (b : ByteArray) (place : Nat) (m : Memory) : Option (Rgba × Nat × Nat) := do
  let byte? (i : Nat) : Option UInt8 := (Bytes.byte? b (place + i)).map UInt8.ofNat
  let tag := (← byte? 0).toNat
  let p := m.last
  if tag = 0xff then
    return (⟨← byte? 1, ← byte? 2, ← byte? 3, ← byte? 4⟩, 1, 5)
  else if tag = 0xfe then
    return (⟨← byte? 1, ← byte? 2, ← byte? 3, p.alpha⟩, 1, 4)
  else
    match tag / 64 with
    | 0 => return (m.seen.getD tag .transparent, 1, 1)
    | 1 => return (⟨shifted p.red (tag / 16 % 4) 2, shifted p.green (tag / 4 % 4) 2,
        shifted p.blue (tag % 4) 2, p.alpha⟩, 1, 1)
    | 2 =>
      let second := (← byte? 1).toNat
      let green := tag % 64
      return (⟨shifted p.red (green + second / 16) 40, shifted p.green green 32,
        shifted p.blue (green + second % 16) 40, p.alpha⟩, 1, 2)
    | _ => return (p, tag % 64 + 1, 1)

/-- Pixels until there are `wanted` of them; `fuel` bounds their number. -/
def pixels? (b : ByteArray) (wanted : Nat) :
    (fuel place : Nat) → Memory → Array Rgba → Option (Array Rgba)
  | 0, _, _, done => if wanted ≤ done.size then some done else none
  | fuel + 1, place, m, done =>
    if wanted ≤ done.size then some done
    else do
      let (p, count, length) ← next? b place m
      pixels? b wanted fuel (place + length) (m.note p) (done ++ Array.replicate count p)

def decode? (b : ByteArray) : Option Canvas := do
  if !Bytes.hasAt b 0 [0x71, 0x6f, 0x69, 0x66] then failure
  let width ← Bytes.big32? b 4
  let height ← Bytes.big32? b 8
  let channels ← Bytes.byte? b 12
  if width = 0 ∨ height = 0 ∨ (channels ≠ 3 ∧ channels ≠ 4) then failure
  let pixels ← pixels? b (width * height) b.size 14 .start #[]
  return Canvas.ofFn width height fun x y => pixels.getD (y * width + x) .transparent

/-- There is no file without pixels. -/
def encode? (c : Canvas) : Option ByteArray :=
  if c.width = 0 ∨ c.height = 0 then none
  else
    let header := Bytes.ofAscii "qoif" ++ Bytes.big32 c.width ++ Bytes.big32 c.height ++ ⟨#[4, 0]⟩
    let data := c.pixels.foldl (fun b p =>
      ((((b.push 0xff).push p.red).push p.green).push p.blue).push p.alpha) header
    some (data ++ ⟨#[0, 0, 0, 0, 0, 0, 0, 1]⟩)

end CardPress.Qoi
