import CardPress.Bytes
import CardPress.Canvas

/-!
# TIFF files

A directory of fields, in either byte order, that says where the strips of pixels are. Plain strips
of eight bits a channel can be read; files are written as one strip of four channels.
-/

namespace CardPress.Tiff

/-- The byte orders. -/
inductive Order where
  | little | big

def Order.read16? : Order → ByteArray → Nat → Option Nat
  | .little => Bytes.little16?
  | .big => Bytes.big16?

def Order.read32? : Order → ByteArray → Nat → Option Nat
  | .little => Bytes.little32?
  | .big => Bytes.big32?

def order? (b : ByteArray) : Option Order :=
  if Bytes.hasAt b 0 [0x49, 0x49, 42, 0] then some .little
  else if Bytes.hasAt b 0 [0x4d, 0x4d, 0, 42] then some .big
  else none

/-- The values of a field, which stand in its entry if they fit into four bytes. -/
def values? (b : ByteArray) (o : Order) (entry : Nat) : Option (List Nat) := do
  let kind ← o.read16? b (entry + 2)
  let count ← o.read32? b (entry + 4)
  let size ← match kind with
    | 1 => some 1
    | 3 => some 2
    | 4 => some 4
    | _ => none
  if b.size < count * size then failure
  let start ← if count * size ≤ 4 then some (entry + 8) else o.read32? b (entry + 8)
  (List.range count).mapM fun i =>
    let place := start + i * size
    match size with
    | 1 => Bytes.byte? b place
    | 2 => o.read16? b place
    | _ => o.read32? b place

/-- The fields of the first directory, with their values where these are whole numbers. -/
def fields? (b : ByteArray) (o : Order) : Option (List (Nat × List Nat)) := do
  let start ← o.read32? b 4
  let count ← o.read16? b start
  let entries ← (List.range count).mapM fun i => do
    let entry := start + 2 + 12 * i
    return (← o.read16? b entry, (values? b o entry).getD [])
  return entries

def decode? (b : ByteArray) : Option Canvas := do
  let o ← order? b
  let fields ← fields? b o
  let all (tag : Nat) (standard : List Nat) : List Nat := (fields.lookup tag).getD standard
  let one? (tag : Nat) (standard : Option Nat) : Option Nat := (all tag []).head?.or standard
  let width ← one? 256 none
  let height ← one? 257 none
  let compression ← one? 259 (some 1)
  let meaning ← one? 262 none
  let channels ← one? 277 (some 1)
  let isKnown := (meaning = 2 ∧ (channels = 3 ∨ channels = 4)) ∨
    (meaning = 1 ∧ (channels = 1 ∨ channels = 2))
  if width = 0 ∨ height = 0 ∨ compression ≠ 1 ∨ ¬isKnown ∨ (all 258 [1]).any (· ≠ 8) then failure
  let strips ← ((all 273 []).zip (all 279 [])).mapM fun (start, length) =>
    Bytes.slice? b start length
  let data := strips.foldl (· ++ ·) ByteArray.empty
  if data.size < width * height * channels then failure
  return Canvas.ofFn width height fun x y =>
    let place := (y * width + x) * channels
    match (data.extract place (place + channels)).toList with
    | [grey] => ⟨grey, grey, grey, 255⟩
    | [grey, alpha] => ⟨grey, grey, grey, alpha⟩
    | [red, green, blue] => ⟨red, green, blue, 255⟩
    | [red, green, blue, alpha] => ⟨red, green, blue, alpha⟩
    | _ => .transparent

/-- An entry of the directory with one value of four bytes. -/
def entry (tag value : Nat) : ByteArray :=
  Bytes.little16 tag ++ Bytes.little16 4 ++ Bytes.little32 1 ++ Bytes.little32 value

/-- There is no file without pixels. The strip comes last, after the depths of the channels. -/
def encode? (c : Canvas) : Option ByteArray :=
  if c.width = 0 ∨ c.height = 0 then none
  else
    let depths := 8 + 2 + 12 * 10 + 4
    let strip := depths + 8
    let header := Bytes.ofAscii "II" ++ Bytes.little16 42 ++ Bytes.little32 8 ++
      Bytes.little16 10 ++ entry 256 c.width ++ entry 257 c.height ++
      (Bytes.little16 258 ++ Bytes.little16 3 ++ Bytes.little32 4 ++ Bytes.little32 depths) ++
      entry 259 1 ++ entry 262 2 ++ entry 273 strip ++ entry 277 4 ++ entry 278 c.height ++
      entry 279 (c.width * c.height * 4) ++ entry 338 2 ++ Bytes.little32 0 ++
      Bytes.little16 8 ++ Bytes.little16 8 ++ Bytes.little16 8 ++ Bytes.little16 8
    some <| c.pixels.foldl (fun b p =>
      (((b.push p.red).push p.green).push p.blue).push p.alpha) header

end CardPress.Tiff
