import CardPress.Generation.Priority
import CardPress.Generation.Scene

/-!
# Running steps

The steps of a face run one after the other in the order of their priorities. A fault in a step says
which face and which step it was.
-/

namespace CardPress.Generation

def priorityKey : String := "priority"

def conditionKey : String := "do_step"

/-- A step with its place among the declared ones. -/
structure PlacedStep where
  index : Nat
  step : Value

/-- Faults say that they come from a step. -/
def inStep {α : Type} (face : CardFace) (index : Nat) (kind : String) (x : Generation α) :
    Generation α :=
  mapFault (.step face.label index kind) x

/-- The resolved priority of a step; null if it has none. -/
def priority (scene : Scene) (s : PlacedStep) : Generation Value :=
  match s.step.get? priorityKey with
  | some v => inStep scene.scope.face s.index priorityKey (scene.resolve v)
  | none => return .null

/-- The steps in running order. -/
def orderSteps (scene : Scene) : Generation (List PlacedStep) := do
  let steps := scene.scope.composition.steps.zipIdx.map fun (step, i) => PlacedStep.mk i step
  let priorities ← steps.mapM (priority scene)
  if 1 < steps.length && !Priority.allComparable priorities then
    log .warn "Step priorities are not comparable, using declaration order" [
      ("label", scene.scope.face.displayLabel)]
  return (Priority.order priorities).filterMap fun i => steps[i]?

/-- What running a step gives, or nothing if its condition leaves it out. The step's canvas becomes
the working one just before its handler starts. -/
def runStep (handlers : Registry StepHandler) (scene : Scene) (s : PlacedStep) (canvas : Image) :
    Generation (Option StepFlow) := do
  let face := scene.scope.face
  let params ← inStep face s.index "step" (s.step.readMapping "step")
  let kind ← inStep face s.index "step" do
    (← scene.param params typeKey).readString typeKey
  inStep face s.index kind do
    if ← scene.flag params conditionKey true then
      match handlers.get? kind with
      | none => throw (.unknownStep kind)
      | some handler =>
        modifyDraft fun d => { d with working := some canvas }
        return some (← handler scene params canvas)
    else return none

/-- Run steps in turn until they end or one of them ends the generation. Cancelling gives
nothing. -/
def runSteps (handlers : Registry StepHandler) (scene : Scene) :
    List PlacedStep → Image → Generation (Option Image)
  | [], canvas => return some canvas
  | s :: rest, canvas => do
    match ← runStep handlers scene s canvas with
    | none => runSteps handlers scene rest canvas
    | some (.go next) => runSteps handlers scene rest next
    | some (.stop last) =>
      info "Step requested stop, finishing early" [("index", toString s.index)]
      return some last
    | some .cancel =>
      info "Generation cancelled" [
        ("label", scene.scope.face.displayLabel), ("index", toString s.index)]
      return none

/-- Draw a face of some size from blank. -/
def drawSteps (handlers : Registry StepHandler) (scene : Scene) (size : Size) :
    Generation (Option Image) := do
  let label := scene.scope.face.displayLabel
  info "Generating card face" [
    ("label", label), ("width", toString size.width), ("height", toString size.height)]
  let canvas ← newImage (.blank size.width size.height)
  match ← runSteps handlers scene (← orderSteps scene) canvas with
  | none => return none
  | some canvas =>
    info "Card face generated" [("label", label)]
    return some canvas

end CardPress.Generation
