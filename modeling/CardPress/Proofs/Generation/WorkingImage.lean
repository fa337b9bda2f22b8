import CardPress.Proofs.Generation.Agreement

/-!
# Which canvas the working image is

The working image can be told without the state: expressions in a handler's parameters see the
canvas that the handler is given, and those in a step's type and condition see the one that the
handler before was given, or none if no handler has run. To say so, faces are drawn with the image
put into the expression itself (`Registry.showing`).

## Main definitions

* `Press.drawShowing` — drawing a face when it is told what each expression sees.

## Main results

* `Press.drawFace_eq_drawShowing` — the working image is the last canvas given to a handler.
* `Press.drawFace_ne_drawShowing_current` — it is not always the current one.
-/

namespace CardPress

open Generation

/-- Expressions of which the working image is a given one, whatever the state holds. -/
def Registry.showing (resolvers : Registry Resolver) (image : Option Image) : Registry Resolver :=
  { resolvers with
    entries := resolvers.entries.insert "working_image"
      fun _ _ => return Expression.imageValue image }

namespace Generation

/-- Run a step whose type and condition belong to one scene and whose handler works in another. -/
def runStepIn (handlers : Registry StepHandler) (deciding handling : Scene) (s : PlacedStep)
    (canvas : Image) : Generation (Option StepFlow) := do
  let face := deciding.scope.face
  let params ← inStep face s.index "step" (s.step.readMapping "step")
  let kind ← inStep face s.index "step" do
    (← deciding.param params typeKey).readString typeKey
  inStep face s.index kind do
    if ← deciding.flag params conditionKey true then
      match handlers.get? kind with
      | none => throw (.unknownStep kind)
      | some handler =>
        modifyDraft fun d => { d with working := some canvas }
        return some (← handler handling params canvas)
    else return none

/-- Run steps with expressions that are shown images: in a handler's parameters the canvas it is
given, and in type and condition what `look` makes of the canvas that the last handler was given and
of the current one. -/
def runStepsShowing (handlers : Registry StepHandler) (showing : Option Image → Scene)
    (look : Option Image → Image → Option Image) :
    Option Image → List PlacedStep → Image → Generation (Option Image)
  | _, [], canvas => return some canvas
  | given, s :: rest, canvas => do
    match ← runStepIn handlers (showing (look given canvas)) (showing (some canvas)) s canvas with
    | none => runStepsShowing handlers showing look given rest canvas
    | some (.go next) => runStepsShowing handlers showing look (some canvas) rest next
    | some (.stop last) =>
      info "Step requested stop, finishing early" [("index", toString s.index)]
      return some last
    | some .cancel =>
      info "Generation cancelled" [
        ("label", (showing none).scope.face.displayLabel), ("index", toString s.index)]
      return none

/-- Draw a face of some size from blank with expressions that are shown images. Priorities are shown
none. -/
def drawStepsShowing (handlers : Registry StepHandler) (showing : Option Image → Scene)
    (look : Option Image → Image → Option Image) (size : Size) :
    Generation (Option Image) := do
  let label := (showing none).scope.face.displayLabel
  info "Generating card face" [
    ("label", label), ("width", toString size.width), ("height", toString size.height)]
  let canvas ← newImage (.blank size.width size.height)
  let steps ← orderSteps (showing none)
  match ← runStepsShowing handlers showing look none steps canvas with
  | none => return none
  | some canvas =>
    info "Card face generated" [("label", label)]
    return some canvas

end Generation

/-- Draw a face with expressions that are shown images. -/
def Press.drawShowing (press : Press) (look : Option Image → Image → Option Image)
    (parents : Lineage) (face : CardFace) : Generation (Option Image) := do
  let composition ← press.pool.compose face
  match composition.size with
  | none => return none
  | some size =>
    let setting : Setting := ⟨press.config, ⟨face, composition⟩, parents,
      press.request press.drawFace (⟨face, composition⟩ :: parents)⟩
    Generation.inNewDraft <|
      Generation.drawStepsShowing press.capabilities.steps
        (fun image => Generation.scene (press.capabilities.resolvers.showing image) setting) look
        size

/-! ## What is shown is what the state holds -/

namespace Generation

/-- One state, which holds a working image. -/
abbrev Holds (image : Option Image) : State → State → Prop :=
  Same fun s => s.draft.working = image

theorem holds_storing (image : Option Image) : Storing (Holds image) :=
  Same.draft_storing (·.working = image) fun _ _ _ => id

/-- A shown image is the working one in states that hold it. -/
theorem agree_showing {resolvers : Registry Resolver} {image : Option Image}
    (h : Registry.Agree (Resolver.Agree (Holds image)) resolvers resolvers)
    (hw : resolvers.get? "working_image" = some Expression.workingImage) :
    Registry.Agree (Resolver.Agree (Holds image)) resolvers (resolvers.showing image) := by
  intro tag
  have hget : (resolvers.showing image).get? tag =
      if tag = "working_image" then some fun _ _ => return Expression.imageValue image
      else resolvers.get? tag := Dict.get?_insert _ _ _ _
  by_cases ht : tag = "working_image"
  · rw [hget, if_pos ht, ht, hw]
    refine .some fun scene scene' _ params s t hst => ?_
    obtain ⟨rfl, rfl⟩ := hst
    exact .ok ⟨rfl, rfl⟩
  · rw [hget, if_neg ht]
    exact h tag

/-- What another face does to its own draft is not seen. -/
theorem agree_drawFace_holds (press : Press) (image : Option Image) (parents : Lineage)
    (face : CardFace) :
    Agree (Holds image) (press.drawFace parents face) (press.drawFace parents face) :=
  press.agree_drawFace_of_inNewDraft (agree_inNewDraft_draft (·.working = image)) parents face

/-! ## Steps -/

/-- Going alike where both hold an image, with equal states after a fault. -/
theorem Agree.related {α : Type} {image : Option Image} {x y : Generation α}
    (h : Agree (Holds image) x y) : Related (Holds image) x y (fun _ => Holds image) Eq :=
  h.mono (fun _ _ => id) (fun _ _ _ => id) fun _ _ h => h.1

variable {handlers : Registry StepHandler} {scene : Scene} {showing : Option Image → Scene}
  (hscene : ∀ image, Scene.Agree (Holds image) scene (showing image))
  (hsteps : ∀ image, Registry.Agree (StepHandler.Agree (Holds image)) handlers handlers)

include hscene hsteps

/-- After a step that ran, the working image is the canvas that it was given. -/
theorem related_runStep (given : Option Image) (s : PlacedStep) (canvas : Image) :
    Related (Holds given) (runStep handlers scene s canvas)
      (runStepIn handlers (showing given) (showing (some canvas)) s canvas)
      (fun flow? => Holds (if flow?.isSome then some canvas else given)) Eq := by
  have h := hscene given
  rw [runStep, runStepIn, h.scope]
  refine ((Agree.ofExcept _).related.mapFault _).bind fun params => ?_
  refine ((Agree.related ((h.param params typeKey).bind fun v => Agree.ofExcept _)).mapFault _).bind
    fun kind => ?_
  refine ((h.flag params conditionKey true).related.bind fun runs => ?_).mapFault _
  cases runs with
  | false => exact Related.pure fun _ _ => id
  | true =>
    have hk := hsteps (some canvas) kind
    cases hget : handlers.get? kind with
    | none => exact fun s t hst => .error hst.1
    | some handler =>
      rw [hget] at hk
      cases hk with
      | some hk =>
        -- Only here the canvas is put where expressions see it.
        have hset : Related (Holds given) (modifyDraft fun d => { d with working := some canvas })
            (modifyDraft fun d => { d with working := some canvas })
            (fun _ => Holds (some canvas)) Eq :=
          related_modify fun s t hst => ⟨by rw [hst.1], rfl⟩
        refine hset.bind fun _ => ?_
        exact (hk _ _ (hscene _) params canvas).related.bind fun _ => Related.pure fun _ _ => id

theorem related_runSteps (steps : List PlacedStep) (given : Option Image) (canvas : Image) :
    Related (Holds given) (runSteps handlers scene steps canvas)
      (runStepsShowing handlers showing (fun given _ => given) given steps canvas)
      (fun _ => Eq) Eq := by
  induction steps generalizing given canvas with
  | nil => exact Related.pure fun _ _ h => h.1
  | cons s rest ih =>
    rw [runSteps, runStepsShowing, ← (hscene none).scope]
    refine (related_runStep hscene hsteps given s canvas).bind fun flow? => ?_
    cases flow? with
    | none => exact ih given canvas
    | some flow =>
      cases flow with
      | go next => exact ih (some canvas) next
      | stop last =>
        exact ((holds_storing _).info _ _).related.bind fun _ => Related.pure fun _ _ h => h.1
      | cancel =>
        exact ((holds_storing _).info _ _).related.bind fun _ => Related.pure fun _ _ h => h.1

theorem related_drawSteps (size : Size) :
    Related (Holds none) (drawSteps handlers scene size)
      (drawStepsShowing handlers showing (fun given _ => given) size) (fun _ => Eq) Eq := by
  have hR := holds_storing none
  rw [drawSteps, drawStepsShowing, ← (hscene none).scope]
  refine (hR.info _ _).related.bind fun _ => (hR.newImage _).related.bind fun canvas => ?_
  refine (agree_orderSteps hR.toCalm (hscene none)).related.bind fun steps => ?_
  refine (related_runSteps hscene hsteps steps none canvas).bind fun result => ?_
  cases result with
  | none => exact agree_eq_iff.2 rfl
  | some canvas => exact agree_eq_iff.2 rfl

end Generation

/-! ## Faces -/

namespace Press

/-- With the standard capabilities, every expression sees the canvas that the last handler of its
own face was given: in a handler's parameters that handler, in a step's type and condition the
handler before, and no canvas at all where no handler has run. -/
theorem drawFace_eq_drawShowing (press : Press)
    (hc : Capabilities.standard = .ok press.capabilities) (parents : Lineage) (face : CardFace) :
    press.drawFace parents face = press.drawShowing (fun given _ => given) parents face := by
  refine agree_eq_iff.1 ?_
  rw [drawFace_eq, drawOnce, drawShowing]
  refine (Agree.ofExcept _).bind fun composition => ?_
  cases composition.size with
  | none => exact Agree.pure _
  | some size =>
    have hworking : press.capabilities.resolvers.get? "working_image" =
        some Expression.workingImage := by
      rw [(Capabilities.standard_get? hc).1]
      rfl
    refine (related_drawSteps (fun image => ?_) (fun image => ?_) size).inNewDraft
      (fun s t h => ⟨by rw [h], rfl⟩) (fun s t a s' t' h h' => by rw [h, h'])
      (fun s t s' t' h h' => by rw [h, h'])
    · have hR := holds_storing image
      refine agree_scene (agree_showing (Capabilities.agree_resolvers hc hR.toCalm) hworking)
        ⟨rfl, rfl, rfl, fun label => ?_⟩
      exact agree_request rfl rfl (fun _ _ _ _ => agree_drawFace_holds press image _ _) label
    · exact Capabilities.agree_steps_of_draft hc (·.working = image) fun _ _ _ => id

/-- Its only step cancels if there is a working image. -/
def cancelling : CardFace :=
  { CardFace.empty 0 with
    size := some ⟨1, 1⟩
    steps := [.mapping <| Dict.ofList [
      (conditionKey, .mapping <| Dict.ofList [(Value.deferredKey, .string "working_image")]),
      (typeKey, .string "cancel")]] }

theorem drawFace_eq_drawShowing_cancelling :
    Capabilities.standard = .ok (ofPool .empty).capabilities ∧
      (ofPool .empty).drawFace [] cancelling =
        (ofPool .empty).drawShowing (fun given _ => given) [] cancelling :=
  ⟨Capabilities.standard_eq_table,
    drawFace_eq_drawShowing _ Capabilities.standard_eq_table [] cancelling⟩

set_option maxRecDepth 10000 in
/-- The condition of the step does not see the blank canvas: shown it, the face would be
cancelled. -/
theorem drawFace_ne_drawShowing_current :
    Capabilities.standard = .ok (ofPool .empty).capabilities ∧
      (ofPool .empty).drawFace [] cancelling ≠
        (ofPool .empty).drawShowing (fun _ canvas => some canvas) [] cancelling := by
  refine ⟨Capabilities.standard_eq_table, fun h => ?_⟩
  have hdrawn : (Run.perform (.start .empty ∅)
      ((ofPool .empty).drawFace [] cancelling)).1.map Option.isSome = .ok true := by
    cbv
  have hcancelled : (Run.perform (.start .empty ∅) ((ofPool .empty).drawShowing
      (fun _ canvas => some canvas) [] cancelling)).1.map Option.isSome = .ok false := by
    cbv
  rw [h, hcancelled] at hdrawn
  cases hdrawn

end Press

end CardPress
