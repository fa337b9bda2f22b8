import CardPress.Capabilities
import CardPress.Generation.Resolve
import CardPress.Generation.Steps

/-!
# The press

Draws faces with given capabilities, templates and configuration. A template can be drawn in the
middle of another face, on whose behalf it is; it gets a draft of its own. No face is drawn within
itself, so this ends (`Press.drawFace`).
-/

namespace CardPress

structure Press where
  capabilities : Capabilities
  pool : TemplatePool
  config : Config

namespace Press

/-- Templates that are not among some faces. -/
def idle (press : Press) (faces : List CardFace) : List CardFace :=
  (press.pool.faces.entries.map (·.2)).filter fun t => !faces.any (·.serial == t.serial)

theorem mem_of_lookup {press : Press} {label : String} {face : CardFace}
    (h : press.pool.lookup label = some face) : face ∈ press.pool.faces.entries.map (·.2) := by
  simp only [TemplatePool.lookup, Dict.get?] at h
  generalize press.pool.faces.entries = entries at h ⊢
  induction entries with
  | nil => simp at h
  | cons e rest ih =>
    obtain ⟨k, f⟩ := e
    by_cases hk : label = k
    · subst hk
      simp_all
    · simp only [List.lookup_cons, beq_eq_false_iff_ne.2 hk] at h
      exact List.mem_cons_of_mem _ (ih h)

/-- One template more among the faces leaves one idle template less. -/
theorem length_idle_cons {press : Press} {faces : List CardFace} {label : String}
    {face : CardFace} (hl : press.pool.lookup label = some face)
    (hf : faces.any (·.serial == face.serial) = false) :
    (press.idle (face :: faces)).length < (press.idle faces).length := by
  refine length_filter_lt (fun t ht => ?_) (mem_of_lookup hl) (by simp [hf]) (by simp)
  simp only [List.any_cons, Bool.not_eq_true', Bool.or_eq_false_iff] at ht ⊢
  exact ht.2

/-- The faces that are being drawn when a face is drawn for a lineage. -/
def active (parents : Lineage) (face : CardFace) : List CardFace :=
  face :: parents.map (·.face)

/-- Draw a face that is not being drawn yet; one without size gives nothing. -/
def drawFace (press : Press) (parents : Lineage) (face : CardFace) :
    Generation (Option Image) := do
  let composition ← press.pool.compose face
  match composition.size with
  | none => return none
  | some size =>
    let lineage : Lineage := ⟨face, composition⟩ :: parents
    let draw (label : String) : Generation (Option Image) :=
      match _h : press.pool.lookup label with
      | none => throw (.unknownTemplate label)
      | some template =>
        if _hd : lineage.isDrawing template then
          throw (.templateCycle (lineage.labels ++ [template.displayLabel]))
        else drawFace press lineage template
    let scene := Generation.scene press.capabilities.resolvers
      ⟨press.config, ⟨face, composition⟩, parents, draw⟩
    Generation.inNewDraft (Generation.drawSteps press.capabilities.steps scene size)
termination_by (press.idle (active parents face)).length
decreasing_by
  simp only [active, List.map_cons]
  refine length_idle_cons _h ?_
  simp only [lineage, Lineage.isDrawing, List.any_cons] at _hd
  simpa [List.any_map, Function.comp_def] using _hd

/-- Draw a face for a lineage that may contain it. -/
def drawWithin (press : Press) (parents : Lineage) (face : CardFace) :
    Generation (Option Image) :=
  if parents.isDrawing face then
    throw (.templateCycle (parents.labels ++ [face.displayLabel]))
  else press.drawFace parents face

/-- The scene of a face, seen from outside its steps. -/
def sceneOf (press : Press) (parents : Lineage) (face : CardFace) : Except Fault Scene := do
  let scope : Scope := ⟨face, ← press.pool.compose face⟩
  let draw (label : String) : Generation (Option Image) :=
    match press.pool.lookup label with
    | none => throw (.unknownTemplate label)
    | some template => press.drawWithin (scope :: parents) template
  return Generation.scene press.capabilities.resolvers ⟨press.config, scope, parents, draw⟩

/-- Draw a face for its own sake. -/
def generate (press : Press) (face : CardFace) (run : Run) : Except Fault (Option Image) × Run :=
  run.perform (press.drawFace [] face)

end Press

end CardPress
