import CardPress.Bytes
import CardPress.Canvas

/-!
# TGA files

A header of eighteen bytes and pixels with the channels in reverse, plain or in runs. Files are
written plain, with four channels, from the top.
-/

namespace CardPress.Tga

/-- Pixels of `bytes` bytes in runs, latest first, until there are `wanted` of them; `fuel` bounds
the number of runs. -/
def runs? (b : ByteArray) (bytes wanted : Nat) :
    (fuel place : Nat) → List ByteArray → Option (List ByteArray)
  | 0, _, _ => none
  | fuel + 1, place, done => do
    if wanted ≤ done.length then return done
    let head ← Bytes.byte? b place
    let count := head % 128 + 1
    if 128 ≤ head then
      let pixel ← Bytes.slice? b (place + 1) bytes
      runs? b bytes wanted fuel (place + 1 + bytes) (List.replicate count pixel ++ done)
    else
      let data ← Bytes.slice? b (place + 1) (count * bytes)
      let pixels := (List.range count).map fun i => data.extract (i * bytes) ((i + 1) * bytes)
      runs? b bytes wanted fuel (place + 1 + count * bytes) (pixels.reverse ++ done)

def colour? (pixel : ByteArray) : Option Rgba :=
  match pixel.toList with
  | [grey] => some ⟨grey, grey, grey, 255⟩
  | [grey, alpha] => some ⟨grey, grey, grey, alpha⟩
  | [blue, green, red] => some ⟨red, green, blue, 255⟩
  | [blue, green, red, alpha] => some ⟨red, green, blue, alpha⟩
  | _ => none

def decode? (b : ByteArray) : Option Canvas := do
  let idLength ← Bytes.byte? b 0
  let kind ← Bytes.byte? b 2
  let width ← Bytes.little16? b 12
  let height ← Bytes.little16? b 14
  let depth ← Bytes.byte? b 16
  let flags ← Bytes.byte? b 17
  let bytes := depth / 8
  let isColour := kind % 8 = 2 ∧ (depth = 24 ∨ depth = 32)
  let isGrey := kind % 8 = 3 ∧ (depth = 8 ∨ depth = 16)
  if Bytes.byte? b 1 ≠ some 0 ∨ width = 0 ∨ height = 0 ∨ ¬(isColour ∨ isGrey) then failure
  let start := 18 + idLength
  let count := width * height
  let pixels ← match kind / 8 with
    | 0 => do
      let data ← Bytes.slice? b start (count * bytes)
      some ((List.range count).map fun i => data.extract (i * bytes) ((i + 1) * bytes))
    | 1 => (runs? b bytes count (count + 1) start []).map List.reverse
    | _ => none
  let pixels := pixels.toArray
  return Canvas.ofFn width height fun x y =>
    let row := if flags / 32 % 2 = 1 then y else height - 1 - y
    let column := if flags / 16 % 2 = 1 then width - 1 - x else x
    (pixels[row * width + column]?.bind colour?).getD .transparent

/-- Sides have to fit into two bytes. -/
def encode? (c : Canvas) : Option ByteArray :=
  if 0xffff < c.width ∨ 0xffff < c.height then none
  else
    let header : ByteArray := ⟨#[0, 0, 2, 0, 0, 0, 0, 0, 0, 0, 0, 0]⟩ ++ Bytes.little16 c.width ++
      Bytes.little16 c.height ++ ⟨#[32, 0x28]⟩
    some <| c.pixels.foldl (fun b p =>
      (((b.push p.blue).push p.green).push p.red).push p.alpha) header

end CardPress.Tga
