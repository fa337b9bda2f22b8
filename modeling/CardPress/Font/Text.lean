import CardPress.Canvas.Mix
import CardPress.Font.Coverage
import CardPress.Font.Style
import CardPress.Number.Machine
import CardPress.Value

/-!
# Lines of text

Measuring and drawing text in a font. Widths add up in single precision, glyph by glyph, kerning
before advance. Drawn text has a canvas of its own that just holds its box; the whole numbers of
drawing have 32 bits, and there is a drawing for every way to keep them.
-/

namespace CardPress

namespace Text

/-- The lines of a text: each ends with a line feed, or a carriage return and one, except perhaps
the last. -/
def lines (s : String) : List String :=
  let dropReturn (cs : List Char) : List Char :=
    match cs.reverse with
    | '\r' :: rest => rest.reverse
    | _ => cs
  match (s.splitOn "\n").reverse with
  | [] => []
  | last :: ended =>
    (ended.reverse.map fun l => String.ofList (dropReturn l.toList)) ++
      if last = "" then [] else [last]

end Text

namespace Font

/-! ## Measuring -/

/-- Pixels for each font unit. -/
def factor (f : Font) : Float32 :=
  f.size / (Float32.ofInt f.face.ascender - Float32.ofInt f.face.descender)

def ascent (f : Font) : Float32 :=
  f.factor * Float32.ofInt f.face.ascender

def descent (f : Font) : Float32 :=
  f.factor * Float32.ofInt f.face.descender

def lineHeight (f : Font) : Float32 :=
  f.ascent - f.descent

def advance (f : Font) (glyph : Nat) : Float32 :=
  f.factor * Float32.ofNat (f.face.advance glyph)

def kerning (f : Font) (left right : Nat) : Float32 :=
  f.factor * Float32.ofInt (f.face.kerning left right)

/-- The width of some glyphs after a first one. -/
def widthAfter (f : Font) (width : Float32) (previous : Nat) : List Nat → Float32
  | [] => width
  | glyph :: rest =>
    f.widthAfter (width + f.kerning previous glyph + f.advance glyph) glyph rest

def lineWidth (f : Font) (line : String) : Float32 :=
  match line.toList.map f.face.glyph with
  | [] => 0
  | glyph :: rest => f.widthAfter (0 + f.advance glyph) glyph rest

/-- The width of the widest line. -/
def measure (f : Font) (text : String) : Float32 :=
  ((Text.lines text).map f.lineWidth).foldl greatest 0

/-- Width and height of the lines with the space between them; even no text takes one line. -/
def blockSize (f : Font) (text : String) (spacing : Float32) : Float32 × Float32 :=
  let count := Float32.ofNat (max 1 (Text.lines text).length)
  (f.measure text, count * f.lineHeight + (count - 1) * spacing)

/-- Where the anchor is, from the top left corner of the block. -/
def anchorOffset (f : Font) (a : Anchor) (width height : Float32) : Float32 × Float32 :=
  let x := match a.horizontal with
    | .left => 0
    | .middle => width / 2
    | .right => width
  let y := match a.vertical with
    | .ascender | .top => 0
    | .middle => height / 2
    | .baseline => f.ascent
    | .bottom | .descender => height
  (x, y)

/-- A box by two opposite corners. -/
structure Box where
  left : Float
  top : Float
  right : Float
  bottom : Float

/-- The box of a text with its stroke whose anchor is at a position. -/
def box (f : Font) (text : String) (position : Float × Float) (style : TextStyle) : Box :=
  let (width, height) := f.blockSize text style.spacing
  let (ax, ay) := f.anchorOffset style.anchor width height
  let stroke := Float32.ofNat style.strokeWidth
  let left := position.1 - (ax + stroke).toFloat
  let top := position.2 - (ay + stroke).toFloat
  ⟨left, top, left + (width + 2 * stroke).toFloat, top + (height + 2 * stroke).toFloat⟩

/-! ## Drawing -/

/-- A glyph with the width of the line before it. -/
structure Placed where
  outline : Outline
  x : Float32

/-- The glyphs of a line that have an outline. Here a glyph is kerned with the outlined one before
it only after it has been placed. -/
def layout (f : Font) (line : String) : List Placed :=
  let step := fun (width, last, done) (c : Char) =>
    let glyph := f.face.glyph c
    let next := width + f.advance glyph
    match f.face.outline? glyph with
    | none => (next, last, done)
    | some outline =>
      let next := match last with
        | some last => next + f.kerning glyph last
        | none => next
      (next, some glyph, Placed.mk outline width :: done)
  (line.toList.foldl step ((0 : Float32), (none : Option Nat), ([] : List Placed))).2.2.reverse

/-- The pixels around part of an axis, scaled and moved to a position: the first and how many. -/
def pixelSpan (low high scale position : Float32) : Float32 × Nat :=
  let whole := Single.truncate position
  let fraction := position - whole
  let first := (low * scale + fraction).floor + whole
  let last := (high * scale + fraction).ceil + whole
  (first, (last - first).toUInt64.toNat)

/-- Draw a glyph of a line whose top left corner is at `(left, top)`. -/
def drawGlyph (f : Font) (colour : Rgba) (left top : Int) (c : Canvas) (g : Placed) : Canvas :=
  let scale := f.factor
  let (x, width) := pixelSpan g.outline.left g.outline.right scale g.x
  let (y, height) := pixelSpan g.outline.top g.outline.bottom (-scale) f.ascent
  let toPixels (p : Point) : Point := ⟨p.x * scale + (g.x - x), p.y * -scale + (f.ascent - y)⟩
  let coverage := (g.outline.curves.map (Curve.map toPixels)).foldl Coverage.addCurve
    (.empty width height)
  let left := left + Coverage.whole x.round
  let top := top + Coverage.whole y.round
  (coverage.values.foldl (fun (c, i) share =>
    (c.modify (left + (i % width : Nat)) (top + (i / width : Nat)) fun p =>
      p.mix share colour, i + 1)) (c, 0)).1

def drawLine (f : Font) (colour : Rgba) (left top : Int) (c : Canvas) (line : String) : Canvas :=
  (f.layout line).foldl (f.drawGlyph colour left top) c

/-- The whole number closest to a length, of 32 bits with sign. -/
def nearestPixel (length : Float32) : Int :=
  length.round.toInt32.toInt

/-- Where the lines of a block with the given width begin, from its corner. -/
def lineOffsets (f : Font) (text : String) (style : TextStyle) (width : Float32) :
    List (String × Int × Int) :=
  let step := f.lineHeight + style.spacing
  (Text.lines text).zipIdx.map fun (line, i) =>
    let slack := width - f.lineWidth line
    let x := match style.align with
      | .left => 0
      | .center => slack / 2
      | .right => slack
    (line, nearestPixel x, nearestPixel (Float32.ofNat i * step))

/-- The stroke width as drawing takes it: a number of 32 bits with sign. -/
def strokeRadius (style : TextStyle) : Int :=
  Bytes.signed 32 style.strokeWidth

/-- The shifts between a least and a greatest one, along both axes. -/
def shifts (least greatest : Int) : List (Int × Int) :=
  let side := (List.range (greatest + 1 - least).toNat).map fun (i : Nat) => least + i
  side.flatMap fun dy => side.map fun dx => (dx, dy)

/-- Pixels that hold a length; at least one. -/
def pixelCount (length : Float32) : Nat :=
  let whole := length.ceil
  if 1 < whole then whole.toUInt32.toNat else 1

section

variable {m : Type → Type} [Monad m] (keep : Int → m Int)

/-- Draw all lines of a block with the given width. -/
def drawBlock (f : Font) (text : String) (colour : Rgba) (style : TextStyle) (width : Float32)
    (c : Canvas) (origin : Int × Int) : m Canvas :=
  (f.lineOffsets text style width).foldlM (fun c (line, x, y) => do
    return f.drawLine colour (← keep (origin.1 + x)) (← keep (origin.2 + y)) c line) c

/-- Whether a block is drawn for a shift: not for none at all, nor for one beyond the radius. -/
def reaches (radius : Int) (shift : Int × Int) : m Bool := do
  if shift = (0, 0) then return false
  let distance ← keep ((← keep (shift.1 * shift.1)) + (← keep (shift.2 * shift.2)))
  return distance ≤ (← keep (radius * radius))

def strokeOrigin? (radius : Int) (shift : Int × Int) : m (Option (Int × Int)) := do
  if ← reaches keep radius shift then
    return some (← keep (radius + shift.1), ← keep (radius + shift.2))
  return none

/-- Where the blocks of a stroke are drawn. -/
def strokeOrigins (radius : Int) : m (List (Int × Int)) := do
  let least ← keep (-radius)
  return (← (shifts least radius).mapM (strokeOrigin? keep radius)).filterMap id

/-- The text on a transparent canvas of its own, over its stroke, with a way to keep numbers. -/
def renderWith (f : Font) (text : String) (fill strokeFill : Rgba) (style : TextStyle) :
    m Canvas := do
  let (width, height) := f.blockSize text style.spacing
  let radius := strokeRadius style
  let around := 2 * Float32.ofInt radius
  let blank := Canvas.blank (pixelCount (width + around)) (pixelCount (height + around))
  let layer ← (← strokeOrigins keep radius).foldlM
    (f.drawBlock keep text strokeFill style width) blank
  f.drawBlock keep text fill style width layer (radius, radius)

end

/-- The text on a canvas of its own, where no number is checked. -/
def render (f : Font) (text : String) (fill strokeFill : Rgba) (style : TextStyle) : Canvas :=
  (f.renderWith (Machine.wrapped 32) text fill strokeFill style).run

end Font

end CardPress
