import CardPress.Generation.Scene
import CardPress.Text.Blank

/-!
# Saving

A step that writes the canvas, another image or a text to a file, creating the directories it needs.
-/

namespace CardPress.Step

/-- What a saved file's name ends with if the step does not say. -/
def standardExtension : String := ".tif"

/-- The directory that a step saves to. -/
def directory (scene : Scene) (params : Mapping) : Generation String := do
  match ← scene.paramOpt params "path" with
  | some path => path.readString "path"
  | none => return scene.config.outputDirectory

def fileName (scene : Scene) (params : Mapping) : Generation String := do
  let name ← match ← scene.paramOpt params "filename" with
    | some name => pure name.text
    | none => pure (scene.scope.face.label.getD Text.defaultFilename)
  let extension ← scene.paramOr params "extension" (.string standardExtension)
  return Text.sanitiseFilename name ++ (← extension.readString "extension")

def save : StepHandler := fun scene params canvas => do
  let directory ← directory scene params
  let path := Path.push directory (← fileName scene params)
  Generation.updateFiles (·.createDirectories directory)
  match ← scene.paramOpt params "data" with
  | none => Generation.writeImage path canvas.canvas
  | some (.image image) => Generation.writeImage path image.canvas
  | some (.string text) => Generation.updateFiles (·.write path text.toUTF8)
  | some other => throw (.invalidParameter "data" "image or string" other.kind.name)
  Generation.info "Card face saved" [
    ("label", scene.scope.face.displayLabel), ("path", path)]
  return .go canvas

end CardPress.Step
