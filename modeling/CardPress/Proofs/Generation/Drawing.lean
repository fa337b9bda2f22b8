import CardPress.Press
import CardPress.Proofs.Outcome

/-!
# Drawing a face, one level at a time

A face is drawn by its steps; what else is drawn on its behalf and how values are resolved can be
told apart from that (`Press.drawOnce`). Drawing is this one level with itself for the templates
(`Press.drawFace_eq`), and depends on nothing but the templates that can be asked for
(`Press.drawOnce_congr`).
-/

namespace CardPress.Press

/-- The press with another pool. -/
def withPool (press : Press) (pool : TemplatePool) : Press :=
  { press with pool := pool }

/-- Ask for the template with a label: it must be there and not be drawn yet. -/
def request (press : Press) (draw : Lineage → CardFace → Generation (Option Image))
    (lineage : Lineage) (label : String) : Generation (Option Image) :=
  match press.pool.lookup label with
  | none => throw (.unknownTemplate label)
  | some template =>
    if lineage.isDrawing template then
      throw (.templateCycle (lineage.labels ++ [template.displayLabel]))
    else draw lineage template

/-- Draw a face, given how values are resolved and how its templates are drawn. -/
def drawOnce (press : Press) (resolving : Setting → Value → Generation Value)
    (draw : Lineage → CardFace → Generation (Option Image)) (parents : Lineage)
    (face : CardFace) : Generation (Option Image) := do
  let composition ← press.pool.compose face
  match composition.size with
  | none => return none
  | some size =>
    let setting : Setting := ⟨press.config, ⟨face, composition⟩, parents,
      press.request draw (⟨face, composition⟩ :: parents)⟩
    Generation.inNewDraft
      (Generation.drawSteps press.capabilities.steps ⟨setting, resolving setting⟩ size)

/-- How a press resolves values. -/
def resolving (press : Press) (setting : Setting) : Value → Generation Value :=
  Generation.resolve press.capabilities.resolvers setting setting.config.maxDepth

theorem drawFace_eq (press : Press) (parents : Lineage) (face : CardFace) :
    press.drawFace parents face =
      press.drawOnce press.resolving press.drawFace parents face := by
  rw [drawFace, drawOnce]
  refine bind_congr fun composition => ?_
  cases composition.size with
  | none => rfl
  | some size =>
    dsimp only
    congr 4
    funext label
    rw [request]
    split
    · next hl => rw [hl]
    · next template hl => rw [hl]; rfl

variable {press : Press} {draw draw' : Lineage → CardFace → Generation (Option Image)}

/-- What comes of a face that can be composed. -/
theorem drawOnce_of_compose {resolving : Setting → Value → Generation Value} {parents : Lineage}
    {face : CardFace} {composition : Composition}
    (h : press.pool.compose face = .ok composition) :
    press.drawOnce resolving draw parents face =
      match composition.size with
      | none => pure none
      | some size =>
        let setting : Setting := ⟨press.config, ⟨face, composition⟩, parents,
          press.request draw (⟨face, composition⟩ :: parents)⟩
        Generation.inNewDraft
          (Generation.drawSteps press.capabilities.steps ⟨setting, resolving setting⟩ size) := by
  rw [drawOnce, h]
  rfl

theorem request_congr {lineage : Lineage}
    (h : ∀ label template, press.pool.lookup label = some template →
      lineage.isDrawing template = false → draw lineage template = draw' lineage template) :
    press.request draw lineage = press.request draw' lineage := by
  funext label
  rw [request, request]
  cases hl : press.pool.lookup label with
  | none => rfl
  | some template =>
    cases hd : lineage.isDrawing template with
    | true => simp only [hd, if_true]
    | false => simpa [hd] using h label template hl hd

/-- What comes of a face depends on how values are resolved under the configuration of the press
and on the drawing of templates that are not drawn yet. -/
theorem drawOnce_congr {resolving resolving' : Setting → Value → Generation Value}
    {parents : Lineage} {face : CardFace}
    (hr : ∀ setting, setting.config = press.config → resolving setting = resolving' setting)
    (hd : ∀ composition label template, press.pool.lookup label = some template →
      Lineage.isDrawing (⟨face, composition⟩ :: parents) template = false →
      draw (⟨face, composition⟩ :: parents) template =
        draw' (⟨face, composition⟩ :: parents) template) :
    press.drawOnce resolving draw parents face = press.drawOnce resolving' draw' parents face := by
  rw [drawOnce, drawOnce]
  refine bind_congr fun composition => ?_
  cases composition.size with
  | none => rfl
  | some size =>
    dsimp only
    rw [request_congr (hd composition), hr _ rfl]

end CardPress.Press
