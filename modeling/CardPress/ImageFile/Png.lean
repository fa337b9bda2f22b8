import CardPress.Canvas
import CardPress.ImageFile.Checksum
import CardPress.ImageFile.Inflate

/-!
# PNG files

A signature and chunks with a checksum each; the pixels are filtered row by row and compressed.
Every colour type and depth can be read, in one pass or in seven. Files are written with eight bits
a channel, stored.
-/

namespace CardPress.Png

def signature : List Nat := [0x89, 0x50, 0x4e, 0x47, 0x0d, 0x0a, 0x1a, 0x0a]

/-! ## Chunks -/

structure Chunk where
  tag : String
  content : ByteArray

/-- Names are four letters; a capital first letter marks what a reader has to understand. -/
def tagAt? (b : ByteArray) (i : Nat) : Option String := do
  let letters ← (List.range 4).mapM fun k => Bytes.byte? b (i + k)
  return String.ofList (letters.map Char.ofNat)

def isCritical (tag : String) : Bool :=
  tag.toList.head?.any Char.isUpper

/-- The chunks from a place on, up to the last one or the first that is damaged. Damage to a chunk
that may be ignored only drops that one. All but the last chunk are followed by another one's length
and name. -/
def chunks (b : ByteArray) : (fuel place : Nat) → List Chunk
  | 0, _ => []
  | fuel + 1, place =>
    let chunk? := do
      let length ← Bytes.big32? b place
      let tag ← tagAt? b (place + 4)
      let content ← Bytes.slice? b (place + 8) length
      let sum ← Bytes.big32? b (place + 8 + length)
      if tag ≠ "IEND" ∧ b.size < place + length + 20 then none
      let isSound := Checksum.cyclic (b.extract (place + 4) (place + 8 + length)) == sum
      return (Chunk.mk tag content, isSound)
    match chunk? with
    | none => []
    | some (chunk, isSound) =>
      if chunk.tag = "IEND" then []
      else
        let rest := chunks b fuel (place + 12 + chunk.content.size)
        if isSound then chunk :: rest
        else if isCritical chunk.tag then []
        else rest

/-! ## Header -/

inductive ColourType where
  | grey | colour | palette | greyAlpha | colourAlpha
  deriving DecidableEq, Repr

namespace ColourType

def ofNat? : Nat → Option ColourType
  | 0 => some .grey
  | 2 => some .colour
  | 3 => some .palette
  | 4 => some .greyAlpha
  | 6 => some .colourAlpha
  | _ => none

def channels : ColourType → Nat
  | .grey | .palette => 1
  | .greyAlpha => 2
  | .colour => 3
  | .colourAlpha => 4

def depths : ColourType → List Nat
  | .grey => [1, 2, 4, 8, 16]
  | .palette => [1, 2, 4, 8]
  | _ => [8, 16]

end ColourType

structure Header where
  width : Nat
  height : Nat
  depth : Nat
  colourType : ColourType
  isInterlaced : Bool

def Header.ofBytes? (b : ByteArray) : Option Header := do
  let width ← Bytes.big32? b 0
  let height ← Bytes.big32? b 4
  let depth ← Bytes.byte? b 8
  let colourType ← ColourType.ofNat? (← Bytes.byte? b 9)
  let interlacing ← Bytes.byte? b 12
  if b.size ≠ 13 ∨ width = 0 ∨ height = 0 ∨ !colourType.depths.contains depth ∨
      Bytes.byte? b 10 ≠ some 0 ∨ Bytes.byte? b 11 ≠ some 0 ∨ 1 < interlacing then
    failure
  return ⟨width, height, depth, colourType, interlacing == 1⟩

/-- Bits of a pixel. -/
def Header.pixelBits (h : Header) : Nat :=
  h.depth * h.colourType.channels

/-! ## Rows -/

/-- The neighbour that comes closest to the sum of two less the third. -/
def nearestNeighbour (left up corner : Nat) : Nat :=
  let guess : Int := (left : Int) + up - corner
  let toLeft := (guess - left).natAbs
  let toUp := (guess - up).natAbs
  let toCorner := (guess - corner).natAbs
  if toLeft ≤ toUp ∧ toLeft ≤ toCorner then left
  else if toUp ≤ toCorner then up
  else corner

/-- What a filter predicts from the byte to the left, the one above and the one between. -/
def predict? (filter left up corner : Nat) : Option Nat :=
  match filter with
  | 0 => some 0
  | 1 => some left
  | 2 => some up
  | 3 => some ((left + up) / 2)
  | 4 => some (nearestNeighbour left up corner)
  | _ => none

/-- A filtered row restored. Neighbours are `stride` bytes apart. -/
def restoreRow? (filter stride : Nat) (above row : ByteArray) : Option ByteArray :=
  row.toList.foldlM (fun done b => do
    let i := done.size
    let left := if stride ≤ i then (done.get! (i - stride)).toNat else 0
    let up := (Bytes.byte? above i).getD 0
    let corner := if stride ≤ i then (Bytes.byte? above (i - stride)).getD 0 else 0
    return done.push (UInt8.ofNat (b.toNat + (← predict? filter left up corner)))) ByteArray.empty

/-- Rows of `length` bytes each from a place on, restored, latest first. -/
def restoreRows? (data : ByteArray) (stride length : Nat) :
    (rows place : Nat) → List ByteArray → Option (List ByteArray)
  | 0, _, done => some done
  | rows + 1, place, done => do
    let filter ← Bytes.byte? data place
    let row ← Bytes.slice? data (place + 1) length
    let restored ← restoreRow? filter stride (done.headD ByteArray.empty) row
    restoreRows? data stride length rows (place + 1 + length) (restored :: done)

/-! ## Passes -/

/-- A regular grid of pixels. -/
structure Pass where
  left : Nat
  top : Nat
  across : Nat
  down : Nat

def singlePass : List Pass := [⟨0, 0, 1, 1⟩]

def sevenPasses : List Pass := [
  ⟨0, 0, 8, 8⟩, ⟨4, 0, 8, 8⟩, ⟨0, 4, 4, 8⟩, ⟨2, 0, 4, 4⟩, ⟨0, 2, 2, 4⟩, ⟨1, 0, 2, 2⟩, ⟨0, 1, 1, 2⟩]

def Header.passes (h : Header) : List Pass :=
  if h.isInterlaced then sevenPasses else singlePass

/-- How many places there are from `start` on, `step` apart, below `size`. -/
def placesBelow (start step size : Nat) : Nat :=
  (size - start + step - 1) / step

def Pass.contains (p : Pass) (x y : Nat) : Bool :=
  p.left ≤ x && p.top ≤ y && (x - p.left) % p.across == 0 && (y - p.top) % p.down == 0

/-- The rows of each pass in turn, from a place on. -/
def restorePasses? (h : Header) (data : ByteArray) :
    (place : Nat) → List Pass → Option (List (Pass × Array ByteArray))
  | _, [] => some []
  | place, p :: rest => do
    let width := placesBelow p.left p.across h.width
    let height := if width = 0 then 0 else placesBelow p.top p.down h.height
    let length := (width * h.pixelBits + 7) / 8
    let rows ← restoreRows? data (max 1 (h.pixelBits / 8)) length height place []
    let rest ← restorePasses? h data (place + height * (length + 1)) rest
    return (p, rows.reverse.toArray) :: rest

/-! ## Pixels -/

/-- A sample of a row as written. -/
def sample (depth : Nat) (row : ByteArray) (i : Nat) : Nat :=
  if depth = 16 then (Bytes.big16? row (2 * i)).getD 0
  else
    let perByte := 8 / depth
    let shift := 8 - depth - i % perByte * depth
    (Bytes.byte? row (i / perByte)).getD 0 / Nat.pow 2 shift % Nat.pow 2 depth

/-- A sample brought to eight bits. -/
def toByte (depth n : Nat) : UInt8 :=
  UInt8.ofNat <|
    if depth = 16 then (n + 128) / 257
    else if depth = 8 then n
    else n * (255 / (Nat.pow 2 depth - 1))

/-- What a reader needs besides the rows: the palette, and the list of opacities or the colour that
is transparent. -/
structure Colours where
  palette : ByteArray
  transparency : Option ByteArray

/-- The opacity of a pixel that names none: one colour may be transparent. -/
def Colours.opacity (c : Colours) (samples : List Nat) : UInt8 :=
  match c.transparency with
  | none => 255
  | some t =>
    if t.size = 2 * samples.length ∧
        samples.zipIdx.all fun (n, i) => Bytes.big16? t (2 * i) == some n then 0
    else 255

def Colours.entry (c : Colours) (n : Nat) : Rgba :=
  let channel (i : Nat) : UInt8 := UInt8.ofNat ((Bytes.byte? c.palette (3 * n + i)).getD 0)
  let alpha := c.transparency.bind fun t => Bytes.byte? t n
  ⟨channel 0, channel 1, channel 2, UInt8.ofNat (alpha.getD 255)⟩

def Colours.pixel (c : Colours) (h : Header) (row : ByteArray) (x : Nat) : Rgba :=
  let at_ (i : Nat) : Nat := sample h.depth row (x * h.colourType.channels + i)
  let byte (i : Nat) : UInt8 := toByte h.depth (at_ i)
  match h.colourType with
  | .grey => ⟨byte 0, byte 0, byte 0, c.opacity [at_ 0]⟩
  | .greyAlpha => ⟨byte 0, byte 0, byte 0, byte 1⟩
  | .colour => ⟨byte 0, byte 1, byte 2, c.opacity [at_ 0, at_ 1, at_ 2]⟩
  | .colourAlpha => ⟨byte 0, byte 1, byte 2, byte 3⟩
  | .palette => c.entry (at_ 0)

def decode? (b : ByteArray) : Option Canvas := do
  if !Bytes.hasAt b 0 signature then failure
  let all := chunks b b.size 8
  let first ← all.head?
  if first.tag ≠ "IHDR" then failure
  let h ← Header.ofBytes? first.content
  let isData (c : Chunk) : Bool := c.tag == "IDAT"
  let before := all.takeWhile (!isData ·)
  let contentOf (tag : String) : Option ByteArray :=
    (before.find? (·.tag == tag)).map (·.content)
  let palette := contentOf "PLTE"
  if h.colourType = .palette ∧ palette.isNone then failure
  let packed := ((all.dropWhile (!isData ·)).takeWhile isData).foldl
    (fun b c => b ++ c.content) ByteArray.empty
  let passes ← restorePasses? h (← Inflate.inflate? packed) 0 h.passes
  let colours : Colours := ⟨palette.getD ByteArray.empty, contentOf "tRNS"⟩
  return Canvas.ofFn h.width h.height fun x y =>
    match passes.find? fun (p, _) => p.contains x y with
    | some (p, rows) =>
      colours.pixel h (rows.getD ((y - p.top) / p.down) ByteArray.empty) ((x - p.left) / p.across)
    | none => .transparent

/-! ## Writing -/

def chunk (tag : String) (content : ByteArray) : ByteArray :=
  let named := Bytes.ofAscii tag ++ content
  Bytes.big32 content.size ++ named ++ Bytes.big32 (Checksum.cyclic named)

/-- The rows without filter. -/
def rows (c : Canvas) : ByteArray :=
  (List.range c.height).foldl (fun b y =>
    (List.range c.width).foldl (fun b x =>
      let p := c.pixel x y
      (((b.push p.red).push p.green).push p.blue).push p.alpha) (b.push 0)) ByteArray.empty

/-- There is no file without pixels. -/
def encode? (c : Canvas) : Option ByteArray :=
  if c.width = 0 ∨ c.height = 0 then none
  else
    let data := rows c
    some <| signature.foldl (fun b n => b.push (UInt8.ofNat n)) ByteArray.empty ++
      chunk "IHDR" (Bytes.big32 c.width ++ Bytes.big32 c.height ++ ⟨#[8, 6, 0, 0, 0]⟩) ++
      chunk "IDAT" (Inflate.store data ++ Bytes.big32 (Checksum.sums data)) ++
      chunk "IEND" ByteArray.empty

end CardPress.Png
