import CardPress.Bytes

/-!
# Font faces

The tables of a TrueType file that text layout needs: the vertical metrics, the map from characters
to glyphs, advances and kerning. Outlines are read from the same face in `CardPress.Font.Outline`.
-/

namespace CardPress.Font

/-- Why a file is no font face. -/
inductive FaceError where
  | unknownFormat
  | indexOutOfRange
  | malformed
  | missingTable (tag : String)
  deriving DecidableEq, Repr

def FaceError.message : FaceError → String
  | .unknownFormat => "not a font"
  | .indexOutOfRange => "no face with this index"
  | .malformed => "damaged font"
  | .missingTable tag => "missing or damaged table " ++ tag

/-- The tables of a face; an absent table is empty. Distances are in font units. -/
structure Face where
  ascender : Int
  descender : Int
  glyphCount : Nat
  longOffsets : Bool
  /-- How many glyphs have an advance of their own. -/
  advanceCount : Nat
  cmap : ByteArray
  hmtx : ByteArray
  kern : ByteArray
  loca : ByteArray
  glyf : ByteArray

namespace Face

open Bytes

/-! ## Loading -/

/-- Where the table directory of face `index` starts. A file with a single face has only index
zero. -/
def directory? (data : ByteArray) (index : Nat) : Except FaceError Nat := do
  let some magic := big32? data 0 | throw .unknownFormat
  let isSingle (magic : Nat) : Bool :=
    magic == 0x00010000 || magic == 0x74727565 || magic == 0x4f54544f
  if magic == 0x74746366 then
    let some count := big32? data 8 | throw .malformed
    let some _ := slice? data 12 (4 * count) | throw .malformed
    if count ≤ index then throw .indexOutOfRange
    let some start := big32? data (12 + 4 * index) | throw .indexOutOfRange
    let some magic := big32? data start | throw .malformed
    if isSingle magic then return start else throw .unknownFormat
  else if isSingle magic then
    if index = 0 then return 0 else throw .indexOutOfRange
  else throw .unknownFormat

/-- The table with a tag. -/
def table? (data : ByteArray) (start count tag : Nat) : Option ByteArray :=
  (List.range count).findSome? fun i => do
    let record := start + 12 + 16 * i
    if (← big32? data record) = tag then
      slice? data (← big32? data (record + 8)) (← big32? data (record + 12))
    else none

def load (data : ByteArray) (index : Nat) : Except FaceError Face := do
  let start ← directory? data index
  let some count := big16? data (start + 4) | throw .malformed
  let some _ := slice? data (start + 12) (16 * count) | throw .malformed
  let table (tag : Nat) : ByteArray := (table? data start count tag).getD ByteArray.empty
  let head := table 0x68656164
  let some units := big16? head 18 | throw (.missingTable "head")
  let some offsets := big16? head 50 | throw (.missingTable "head")
  if head.size < 54 || units < 16 || 16384 < units || 1 < offsets then
    throw (.missingTable "head")
  let hhea := table 0x68686561
  let some ascender := big16? hhea 4 | throw (.missingTable "hhea")
  let some descender := big16? hhea 6 | throw (.missingTable "hhea")
  let some advances := big16? hhea 34 | throw (.missingTable "hhea")
  let maxp := table 0x6d617870
  let some version := big32? maxp 0 | throw (.missingTable "maxp")
  let some glyphs := big16? maxp 4 | throw (.missingTable "maxp")
  if !(version == 0x00010000 || version == 0x00005000) || glyphs == 0 then
    throw (.missingTable "maxp")
  return {
    ascender := signed 16 ascender
    descender := signed 16 descender
    glyphCount := glyphs
    longOffsets := offsets == 1
    advanceCount := advances
    cmap := table 0x636d6170
    hmtx := table 0x686d7478
    kern := table 0x6b65726e
    loca := table 0x6c6f6361
    glyf := table 0x676c7966 }

/-! ## Characters -/

/-- One byte for each of the first 256 characters. -/
def byteMap? (t : ByteArray) (code : Nat) : Option Nat :=
  if code < 256 then byte? t (6 + code) else none

/-- A run of consecutive characters. -/
def trimmedMap? (t : ByteArray) (code : Nat) : Option Nat := do
  let first ← big16? t 6
  let count ← big16? t 8
  if first ≤ code ∧ code < first + count then big16? t (10 + 2 * (code - first)) else none

/-- Segments of sixteen-bit characters, each with a shift or a list of glyphs. -/
def segmentMap? (t : ByteArray) (code : Nat) : Option Nat := do
  if 0xffff < code then none
  let count := (← big16? t 6) / 2
  let segment ← (List.range count).find? fun i =>
    match big16? t (14 + 2 * i) with
    | some last => code ≤ last
    | none => false
  let first ← big16? t (16 + 2 * count + 2 * segment)
  if code < first then none
  let shift ← big16? t (16 + 4 * count + 2 * segment)
  let place := 16 + 6 * count + 2 * segment
  let offset ← big16? t place
  if offset = 0 then return (code + shift) % 0x10000
  if offset = 0xffff then none
  let glyph ← big16? t (place + offset + 2 * (code - first))
  if glyph = 0 then none else return (glyph + shift) % 0x10000

/-- Groups of consecutive characters and glyphs. -/
def groupMap? (t : ByteArray) (code : Nat) : Option Nat := do
  let count ← big32? t 12
  (List.range (min count (t.size / 12))).findSome? fun i => do
    let place := 16 + 12 * i
    let first ← big32? t place
    let last ← big32? t (place + 4)
    if first ≤ code ∧ code ≤ last then
      let glyph := (← big32? t (place + 8)) + (code - first)
      if glyph ≤ 0xffff then some glyph else none
    else none

/-- The glyph one table of the character map gives. -/
def subtableGlyph? (t : ByteArray) (code : Nat) : Option Nat := do
  match ← big16? t 0 with
  | 0 => byteMap? t code
  | 4 => segmentMap? t code
  | 6 => trimmedMap? t code
  | 12 => groupMap? t code
  | _ => none

/-- Whether a table of the character map, by platform and encoding, maps Unicode characters. -/
def isUnicode (platform encoding format : Nat) : Bool :=
  platform == 0 || (platform == 3 && (encoding == 1 || (encoding == 10 && format == 12)))

/-- The glyph for a character; what the face cannot show is glyph zero. -/
def glyph (f : Face) (c : Char) : Nat :=
  let found := do
    let count ← big16? f.cmap 2
    (List.range count).findSome? fun i => do
      let record := 4 + 8 * i
      let platform ← big16? f.cmap record
      let encoding ← big16? f.cmap (record + 2)
      let start ← big32? f.cmap (record + 4)
      let t := f.cmap.extract start f.cmap.size
      if isUnicode platform encoding (← big16? t 0) then subtableGlyph? t c.toNat else none
  found.getD 0

/-! ## Distances -/

/-- How far a glyph moves the pen. The last advance counts for all glyphs after it. -/
def advance (f : Face) (glyph : Nat) : Nat :=
  if glyph < f.glyphCount ∧ 0 < f.advanceCount then
    (big16? f.hmtx (4 * min glyph (f.advanceCount - 1))).getD 0
  else 0

/-- The kerning of a pair in one table of pairs. -/
def pairKerning? (t : ByteArray) (left right : Nat) : Option Int := do
  let count ← big16? t 6
  (List.range count).findSome? fun i => do
    let place := 14 + 6 * i
    if (← big16? t place) = left ∧ (← big16? t (place + 2)) = right then
      return signed 16 (← big16? t (place + 4))
    else none

/-- The kerning in the first of the remaining `fuel` tables, from `start` on, that has the pair.
Only horizontal tables of pairs count. -/
def kerningFrom (kern : ByteArray) (left right : Nat) : (fuel start : Nat) → Int
  | 0, _ => 0
  | fuel + 1, start =>
    match big16? kern (start + 2), big16? kern (start + 4) with
    | some length, some coverage =>
      let t := kern.extract start kern.size
      let found :=
        if coverage / 0x100 = 0 ∧ coverage % 2 = 1 then pairKerning? t left right else none
      match found with
      | some k => k
      | none => kerningFrom kern left right fuel (start + length)
    | _, _ => 0

/-- What to add between two neighbouring glyphs. -/
def kerning (f : Face) (left right : Nat) : Int :=
  match big16? f.kern 0, big16? f.kern 2 with
  | some 0, some count => kerningFrom f.kern left right count 4
  | _, _ => 0

end Face

end CardPress.Font
