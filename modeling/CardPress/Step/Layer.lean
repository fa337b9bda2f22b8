import CardPress.Canvas.Mix
import CardPress.Canvas.Paste
import CardPress.Canvas.Resize
import CardPress.Canvas.Rotate
import CardPress.Expression.Picture
import CardPress.Step.Colour
import CardPress.Step.Fitting

/-!
# Steps that add a layer

An image or a text is cut, scaled, resized, turned and faded as the step asks, in this order, and
then laid over the canvas.
-/

namespace CardPress.Step

def crop (v : Value) (layer : Canvas) : Except Fault Canvas := do
  match ← v.readSequence "crop" with
  | [] => return layer
  | [left, top, right, bottom] =>
    return layer.crop (← left.readNatural "crop") (← top.readNatural "crop")
      (← right.readNatural "crop") (← bottom.readNatural "crop")
  | items => Value.invalid "crop" "[left, top, right, bottom]" (Value.sequenceText items)

/-- Give a layer the size that a rule makes of two axes. -/
def fit (parameter : String) (rule : Axis × Axis → Nat → Nat → Nat × Nat) (v : Value)
    (layer : Canvas) : Except Fault Canvas := do
  match ← Axis.readPair parameter v with
  | some axes =>
    let (width, height) := rule axes layer.width layer.height
    return layer.resize width height
  | none => return layer

def rotate (v : Value) (layer : Canvas) : Except Fault Canvas := do
  let degrees ← v.readNumber "rotate"
  return if Double.isZero degrees then layer else layer.rotate degrees

def fade (v : Value) (layer : Canvas) : Except Fault Canvas := do
  return layer.fade (← v.readNumber "opacity")

/-- The parameters that change a layer, in order. -/
def manipulations : List (String × (Value → Canvas → Except Fault Canvas)) := [
  ("crop", crop), ("scale", fit "scale" Fitting.scaled),
  ("resize_to", fit "resize_to" Fitting.resized), ("rotate", rotate), ("opacity", fade)]

/-- Change a layer as the step asks. -/
def manipulate (scene : Scene) (params : Mapping) (layer : Canvas) : Generation Canvas :=
  manipulations.foldlM (fun layer (parameter, change) => do
    match ← scene.paramOpt params parameter with
    | some v => change v layer
    | none => return layer) layer

/-- Lay a layer over the canvas. The position is that of its top left corner or of its centre. -/
def place (scene : Scene) (params : Mapping) (position : Float × Float) (layer : Canvas)
    (canvas : Image) : Generation Image := do
  let (x, y) := position
  let isCentre ← scene.flag params "is_position_centre" false
  let x := if isCentre then x - Double.ofInt layer.width / 2 else x
  let y := if isCentre then y - Double.ofInt layer.height / 2 else y
  let left := Double.toInt64 (Double.roundEven x)
  let top := Double.toInt64 (Double.roundEven y)
  Generation.newImage (canvas.canvas.paste layer left top)

def pasteImage : StepHandler := fun scene params canvas => do
  let image ← (← scene.param params "image").readImage "image"
  let layer ← manipulate scene params image.canvas
  let position ← (← scene.param params "position").readPoint "position"
  return .go (← place scene params position layer canvas)

/-- The layer is just as large as the text, and the position is that of the layer whatever the
anchor. -/
def writeText : StepHandler := fun scene params canvas => do
  let position ← (← scene.param params "position").readPoint "position"
  let text ← scene.param params "text"
  let fill ← Rgba.ofValue (← scene.param params "fill")
  let font ← scene.param params "font"
  let strokeFill ← match ← scene.paramOpt params "stroke_fill" with
    | some v => monadLift (Rgba.ofValue v)
    | none => pure fill
  let style ← Expression.textStyle scene params
  let font ← font.readFont "font"
  let layer := font.render (← text.readString "text") fill strokeFill style
  let layer ← manipulate scene params layer
  return .go (← place scene params position layer canvas)

end CardPress.Step
