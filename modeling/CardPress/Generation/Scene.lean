import CardPress.Config
import CardPress.Generation.State
import CardPress.Pool
import CardPress.Registry
import CardPress.Value.Reading

/-!
# Scenes

What an expression or a step can see and do: the configuration, the face being drawn and the faces
on whose behalf it is drawn, resolving values, and drawing a template.
-/

namespace CardPress

/-- A face that is being drawn, with its inheritance flattened. -/
structure Scope where
  face : CardFace
  composition : Composition

namespace Scope

/-- The declared attributes of the face as a value. -/
def snapshot (s : Scope) : Value :=
  let size := match s.composition.size with
    | some size => .sequence [.ofNat size.width, .ofNat size.height]
    | none => .null
  .mapping <| Dict.ofList [
    ("label", (s.face.label.map Value.string).getD .null),
    ("size", size),
    ("templates", .sequence (s.face.templates.map .string)),
    ("is_template", .bool s.face.isTemplate)]

end Scope

/-- The scopes that led to a face, innermost first. -/
abbrev Lineage := List Scope

namespace Lineage

/-- Whether a face is being drawn already. -/
def isDrawing (lineage : Lineage) (face : CardFace) : Bool :=
  lineage.any fun s => s.face.serial == face.serial

/-- Labels, outermost first. -/
def labels (lineage : Lineage) : List String :=
  (lineage.map fun s => s.face.displayLabel).reverse

end Lineage

/-- Everything that stays the same while a face is drawn. -/
structure Setting where
  config : Config
  scope : Scope
  parents : Lineage
  /-- Draw the template with a label. -/
  draw : String → Generation (Option Image)

structure Scene extends Setting where
  resolve : Value → Generation Value

/-- Turns an expression, given by its parameters, into the next value. -/
abbrev Resolver := Scene → Mapping → Generation Value

/-- What comes after a step. -/
inductive StepFlow where
  | go (canvas : Image)
  /-- Leave out the remaining steps. -/
  | stop (canvas : Image)
  /-- Nothing is drawn after all. -/
  | cancel

/-- Applies a step, given by its parameters, to the canvas. -/
abbrev StepHandler := Scene → Mapping → Image → Generation StepFlow

/-! ## Parameters -/

def typeKey : String := "type"

def logKey : String := "do_log"

/-- The kind of the expression or step that parameters belong to. -/
def contextName (params : Mapping) : String :=
  (((params.get? Value.deferredKey).or (params.get? typeKey)).bind Value.string?).getD "step"

/-- A required parameter as it stands. -/
def rawParam (params : Mapping) (name : String) : Except Fault Value :=
  match params.get? name with
  | some v => .ok v
  | none => .error (.missingParameter (contextName params) name)

namespace Scene

/-- A required parameter, resolved. -/
def param (s : Scene) (params : Mapping) (name : String) : Generation Value := do
  s.resolve (← rawParam params name)

/-- A parameter, resolved, or what stands for an absent one. -/
def paramOr (s : Scene) (params : Mapping) (name : String) (default : Value) :
    Generation Value :=
  match params.get? name with
  | some v => s.resolve v
  | none => return default

/-- An optional parameter, resolved; null is as good as absent. -/
def paramOpt (s : Scene) (params : Mapping) (name : String) : Generation (Option Value) :=
  match params.get? name with
  | some v => do
    let v ← s.resolve v
    return if v.isNull then none else some v
  | none => return none

/-- A parameter that is true or false. -/
def flag (s : Scene) (params : Mapping) (name : String) (default : Bool) : Generation Bool := do
  return (← s.paramOr params name (.bool default)).isTruthy

/-- Whether the expression or step is to be logged. -/
def shouldLog (s : Scene) (params : Mapping) : Generation Bool := do
  if s.config.logsAll then return true
  else return (← s.paramOpt params logKey).any Value.isTruthy

end Scene

end CardPress
