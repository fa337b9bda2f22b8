import CardPress.Bytes
import CardPress.Canvas

/-!
# Portable map files

Bits, greys or colours, written as numbers or as bytes, after a header of numbers. Only reading.
-/

namespace CardPress.Pnm

def isSpace (n : Nat) : Bool :=
  n == 0x20 || (0x09 ≤ n && n ≤ 0x0d)

/-- The place after spaces and comments. -/
def skip (b : ByteArray) : (fuel place : Nat) → Bool → Nat
  | 0, place, _ => place
  | fuel + 1, place, inComment =>
    match Bytes.byte? b place with
    | none => place
    | some n =>
      if inComment then skip b fuel (place + 1) (n != 0x0a && n != 0x0d)
      else if n = 0x23 then skip b fuel (place + 1) true
      else if isSpace n then skip b fuel (place + 1) false
      else place

/-- The number at a place and the place after it. -/
def digits (b : ByteArray) : (fuel place value : Nat) → Nat × Nat
  | 0, place, value => (value, place)
  | fuel + 1, place, value =>
    match Bytes.byte? b place with
    | some n =>
      if 0x30 ≤ n ∧ n ≤ 0x39 then digits b fuel (place + 1) (value * 10 + (n - 0x30))
      else (value, place)
    | none => (value, place)

def number? (b : ByteArray) (place : Nat) : Option (Nat × Nat) :=
  let start := skip b b.size place false
  let (value, stop) := digits b b.size start 0
  if stop = start then none else some (value, stop)

/-- A number of the given count of digits, which spaces may separate. -/
def bit? (b : ByteArray) (place : Nat) : Option (Nat × Nat) := do
  let start := skip b b.size place false
  match ← Bytes.byte? b start with
  | 0x30 => some (0, start + 1)
  | 0x31 => some (1, start + 1)
  | _ => none

/-- As many samples as wanted after those that are done, each read by the same rule. -/
def samples? (read? : Nat → Option (Nat × Nat)) :
    (count place : Nat) → Array Nat → Option (Array Nat)
  | 0, _, done => some done
  | count + 1, place, done => do
    let (n, place) ← read? place
    samples? read? count place (done.push n)

/-- A sample brought from its range to eight bits. -/
def toByte (greatest n : Nat) : UInt8 :=
  let scaled (target : Nat) : Float32 :=
    (Float32.ofNat n * (Float32.ofNat target / Float32.ofNat greatest)).round
  if greatest < 256 then (scaled 255).toUInt8
  else UInt8.ofNat (((scaled 65535).toUInt16.toNat + 128) / 257)

/-- A grey or a colour from samples in place. -/
def pixel (channels greatest : Nat) (samples : Array Nat) (i : Nat) : Rgba :=
  let byte (k : Nat) : UInt8 := toByte greatest (samples.getD (i * channels + k) 0)
  if channels = 1 then ⟨byte 0, byte 0, byte 0, 255⟩ else ⟨byte 0, byte 1, byte 2, 255⟩

def decode? (b : ByteArray) : Option Canvas := do
  if Bytes.byte? b 0 ≠ some 0x50 then failure
  let kind := (← Bytes.byte? b 1) - 0x30
  if kind = 0 ∨ 6 < kind then failure
  let isBits := kind = 1 ∨ kind = 4
  let channels := if kind = 3 ∨ kind = 6 then 3 else 1
  let (width, place) ← number? b 2
  let (height, place) ← number? b place
  let (greatest, place) ← if isBits then some (1, place) else number? b place
  if width = 0 ∨ height = 0 ∨ greatest = 0 ∨ 65535 < greatest ∨
      b.size * 8 < width * height * channels then failure
  let count := width * height * channels
  let data := place + 1
  let samples ← match kind with
    | 1 => samples? (bit? b) count place #[]
    | 2 | 3 => samples? (number? b) count place #[]
    | 4 =>
      let stride := (width + 7) / 8
      (Array.range count).mapM fun i => do
        let n ← Bytes.byte? b (data + i / width * stride + i % width / 8)
        return n / Nat.pow 2 (7 - i % width % 8) % 2
    | _ =>
      let size := if greatest < 256 then 1 else 2
      (Array.range count).mapM fun i =>
        if size = 1 then Bytes.byte? b (data + i) else Bytes.big16? b (data + 2 * i)
  if samples.any (greatest < ·) then failure
  let samples := if isBits then samples.map (1 - ·) else samples
  return Canvas.ofFn width height fun x y => pixel channels greatest samples (y * width + x)

end CardPress.Pnm
