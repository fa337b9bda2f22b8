import CardPress.Font.Text
import CardPress.Generation.Scene

/-!
# Expressions on images and fonts

Images from files and blank ones, fonts, and measures of text.
-/

namespace CardPress.Expression

def imageFromFile : Resolver := fun scene params => do
  let path ← (← scene.param params "src").readString "src"
  return .image (← Generation.readImage path)

def blankImage : Resolver := fun scene params => do
  let (width, height) ← (← scene.param params "size").readSize "size"
  return .image (← Generation.newImage (.blank width height))

/-- A font face of a file at a size. -/
def loadFont (path : String) (size : Float32) (index : Nat) : Generation Font := do
  match Font.Face.load (← Generation.readFile path) index with
  | .ok face => return ⟨← Generation.freshStamp, face, size⟩
  | .error cause => throw (.font path cause)

def font : Resolver := fun scene params => do
  let path ← scene.param params "src"
  let kind ← scene.paramOr params "type" (.string "truetype")
  if (← kind.readString "type") ≠ "truetype" then
    throw (.invalidParameter "type" "truetype" kind.text)
  let size ← match ← scene.paramOpt params "size" with
    | some size => pure (← size.readNumber "size").toFloat32
    | none => pure defaultFontSize
  let index ← match ← scene.paramOpt params "index" with
    | some index => monadLift (index.readNatural "index")
    | none => pure 0
  return .font (← loadFont (← path.readString "src") size index)

def textLength : Resolver := fun scene params => do
  let text ← scene.param params "text"
  let font ← (← scene.param params "font").readFont "font"
  return .number (font.measure (← text.readString "text")).toFloat

/-- The layout options among the parameters. -/
def textStyle (scene : Scene) (params : Mapping) : Generation TextStyle := do
  let mut style := TextStyle.standard
  if let some spacing ← scene.paramOpt params "spacing" then
    style := { style with spacing := (← spacing.readNumber "spacing").toFloat32 }
  if let some align ← scene.paramOpt params "align" then
    style := { style with align := ← TextAlign.parse (← align.readString "align") }
  if let some anchor ← scene.paramOpt params "anchor" then
    style := { style with anchor := ← Anchor.parse (← anchor.readString "anchor") }
  if let some width ← scene.paramOpt params "stroke_width" then
    style := { style with strokeWidth := ← width.readNatural "stroke_width" }
  return style

def textBox : Resolver := fun scene params => do
  let text ← scene.param params "text"
  let font ← scene.param params "font"
  let position ← match ← scene.paramOpt params "position" with
    | some position => monadLift (position.readPoint "position")
    | none => pure (0.0, 0.0)
  let style ← textStyle scene params
  let font ← font.readFont "font"
  let box := font.box (← text.readString "text") position style
  return .sequence [.number box.left, .number box.top, .number box.right, .number box.bottom]

end CardPress.Expression
