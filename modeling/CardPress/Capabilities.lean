import CardPress.Expression.Data
import CardPress.Expression.Face
import CardPress.Expression.Picture
import CardPress.Step.Cache
import CardPress.Step.Layer
import CardPress.Step.Save

/-!
# Capabilities

The expressions and steps that can be used. Extensions contribute them under tags; two contributions
with one tag do not go together. The standard ones are those that come with the press.
-/

namespace CardPress

structure Capabilities where
  resolvers : Registry Resolver
  steps : Registry StepHandler

structure Extension where
  resolvers : List (String × Resolver)
  steps : List (String × StepHandler)

namespace Capabilities

def empty : Capabilities where
  resolvers := .new "resolver"
  steps := .new "step handler"

instance : Inhabited Capabilities := ⟨empty⟩

/-- Add what an extension contributes, its resolvers first. -/
def extend (c : Capabilities) (e : Extension) : Except Fault Capabilities := do
  return ⟨← c.resolvers.registerAll e.resolvers, ← c.steps.registerAll e.steps⟩

/-- Add extensions in turn. -/
def compose (base : Capabilities) (extensions : List Extension) : Except Fault Capabilities :=
  extensions.foldlM extend base

end Capabilities

/-! ## The standard ones -/

namespace Expression

def standard : Extension where
  resolvers := [
    ("self", self), ("parent", parent), ("config", config), ("cached", cached),
    ("calc", calculation), ("seeded", seeded), ("mapped", mapped), ("card_dim", cardDimension),
    ("working_image", workingImage), ("image_from_file", imageFromFile),
    ("blank_image", blankImage), ("image_from_template", imageFromTemplate), ("font", font),
    ("text_length", textLength), ("text_bbox", textBox)]
  steps := []

end Expression

namespace Step

def stop : StepHandler := fun _ _ canvas => return .stop canvas

def cancel : StepHandler := fun _ _ _ => return .cancel

def standard : Extension where
  resolvers := []
  steps := [
    ("write_to_cache", writeToCache), ("paste_image", pasteImage), ("write_text", writeText),
    ("save", save), ("stop", stop), ("cancel", cancel)]

end Step

/-- The standard expressions and steps. -/
def Capabilities.standard : Except Fault Capabilities :=
  compose empty [Expression.standard, Step.standard]

end CardPress
