import CardPress.Generation.Scene

/-!
# Expressions on the face being drawn

Its attributes and those of the face it is drawn for, its size, its canvas, the configured values,
and templates drawn on its behalf.
-/

namespace CardPress.Expression

def self : Resolver := fun scene _ =>
  return scene.scope.snapshot

def parent : Resolver := fun scene _ =>
  return (scene.parents.head?.map Scope.snapshot).getD .null

def config : Resolver := fun scene _ =>
  return .mapping scene.config.values

def cardDimension : Resolver := fun scene params => do
  let dimension ← scene.param params "dimension"
  match scene.scope.composition.size with
  | none => Value.invalid (α := Value) "dimension" "a sized card face" "no size"
  | some size =>
    match ← dimension.readString "dimension" with
    | "width" => return .ofNat size.width
    | "height" => return .ofNat size.height
    | other => Value.invalid (α := Value) "dimension" "width or height" other

/-- An image, or null in place of none. -/
def imageValue : Option Image → Value
  | some i => .image i
  | none => .null

def workingImage : Resolver := fun _ _ =>
  return imageValue (← get).draft.working

def imageFromTemplate : Resolver := fun scene params => do
  let label ← (← scene.param params "label").readString "label"
  return imageValue (← scene.draw label)

end CardPress.Expression
