import CardPress.Proofs.Capabilities
import CardPress.Proofs.Generation.Drawing
import CardPress.Proofs.Generation.Ending

/-!
# The size of the canvas

No standard step changes the size of the canvas, be it the last one or one that ends the drawing
early. So what is drawn has the size of the face's composition. If nothing is drawn because of a
fault, the fault names a step of the composition.

## Main definitions

* `StepHandler.KeepsSize` — a step that hands on a canvas of the size it was given.
* `StepHandler.GoesOn` — one that never ends a drawing, either.
* `Fault.OfStep` — a fault in one of the first steps of a face.

## Main results

* `Step.standard_goesOn` — every standard step but `stop` and `cancel` goes on.
* `Step.standard_keepsSize` — every standard step keeps the size.
* `Generation.ends_drawSteps`, `Press.ends_drawFace` — what drawing gives has the size asked for,
  and its faults are those of steps.
-/

namespace CardPress

open Generation

def Canvas.size (c : Canvas) : Size :=
  ⟨c.width, c.height⟩

@[simp] theorem Canvas.size_paste (c layer : Canvas) (x y : Int) :
    (c.paste layer x y).size = c.size := rfl

@[simp] theorem Canvas.size_blank (width height : Nat) :
    (blank width height).size = ⟨width, height⟩ := rfl

/-- A canvas that a step hands on has some size. -/
def StepFlow.Sized (size : Size) : StepFlow → Prop
  | .go canvas => canvas.canvas.size = size
  | .stop canvas => canvas.canvas.size = size
  | .cancel => True

/-- What a step hands on is as large as what it was given. -/
def StepHandler.KeepsSize (handler : StepHandler) : Prop :=
  ∀ scene params canvas, Ends (StepFlow.Sized canvas.canvas.size) (fun _ => True)
    (handler scene params canvas)

/-- A step that never ends a drawing: it hands on a canvas to go on with, as large as the one it was
given. -/
def StepHandler.GoesOn (handler : StepHandler) : Prop :=
  ∀ scene params canvas,
    Ends (fun flow => ∃ next, flow = .go next ∧ next.canvas.size = canvas.canvas.size)
      (fun _ => True) (handler scene params canvas)

theorem StepHandler.GoesOn.keepsSize {handler : StepHandler} (h : handler.GoesOn) :
    handler.KeepsSize := by
  refine fun scene params canvas => (h scene params canvas).mono ?_ fun _ => id
  rintro _ ⟨next, rfl, hnext⟩
  exact hnext

/-- A fault in one of the first `count` steps of a face. -/
def Fault.OfStep (face : CardFace) (count : Nat) (fault : Fault) : Prop :=
  ∃ index kind source, index < count ∧ fault = .step face.label index kind source

/-! ## Steps -/

namespace Step

theorem ends_place (scene : Scene) (params : Mapping) (position : Float × Float) (layer : Canvas)
    (canvas : Image) :
    Ends (fun image => image.canvas.size = canvas.canvas.size) (fun _ => True)
      (place scene params position layer canvas) :=
  Ends.after fun _ => Ends.after fun _ => Ends.pure rfl

theorem goesOn_writeToCache : writeToCache.GoesOn := fun _ _ canvas =>
  Ends.after fun _ => Ends.after fun _ => Ends.after fun _ => Ends.pure ⟨canvas, rfl, rfl⟩

theorem goesOn_pasteImage : pasteImage.GoesOn := by
  intro scene params canvas
  refine Ends.after fun v => Ends.after fun image => Ends.after fun layer => ?_
  refine Ends.after fun v => Ends.after fun position => ?_
  exact (ends_place scene params position layer canvas).bind fun image h =>
    Ends.pure ⟨image, rfl, h⟩

theorem goesOn_writeText : writeText.GoesOn := by
  intro scene params canvas
  refine Ends.after fun v => Ends.after fun position => Ends.after fun text => ?_
  refine Ends.after fun v => Ends.after fun fill => Ends.after fun font => ?_
  extract_lets draw
  have hdraw (strokeFill : Rgba) : Ends
      (fun flow => ∃ next, flow = .go next ∧ next.canvas.size = canvas.canvas.size)
      (fun _ => True) (draw strokeFill) := by
    refine Ends.after fun style => Ends.after fun font => Ends.after fun text => ?_
    refine Ends.after fun layer => ?_
    exact (ends_place scene params position layer canvas).bind fun image h =>
      Ends.pure ⟨image, rfl, h⟩
  refine Ends.after fun v? => ?_
  cases v? with
  | none => exact Ends.after hdraw
  | some v => exact Ends.after hdraw

theorem goesOn_save : save.GoesOn := by
  intro scene params canvas
  refine Ends.after fun directory => Ends.after fun name => Ends.after fun _ => ?_
  extract_lets finish
  have hfinish (u : Unit) : Ends
      (fun flow => ∃ next, flow = .go next ∧ next.canvas.size = canvas.canvas.size)
      (fun _ => True) (finish u) :=
    Ends.after fun _ => Ends.pure ⟨canvas, rfl, rfl⟩
  refine Ends.after fun v? => ?_
  split <;> exact Ends.after hfinish

/-- Every standard step goes on, apart from the two that are there to end a drawing. -/
theorem standard_goesOn : ∀ e ∈ standard.steps,
    e = ("stop", stop) ∨ e = ("cancel", cancel) ∨ StepHandler.GoesOn e.2 := by
  simp only [standard, List.forall_mem_cons, List.not_mem_nil, false_imp_iff, implies_true,
    and_true]
  exact ⟨.inr (.inr goesOn_writeToCache), .inr (.inr goesOn_pasteImage),
    .inr (.inr goesOn_writeText), .inr (.inr goesOn_save), .inl trivial, .inr (.inl trivial)⟩

theorem standard_keepsSize : ∀ e ∈ standard.steps, StepHandler.KeepsSize e.2 := by
  intro e he
  rcases standard_goesOn e he with rfl | rfl | hgoes
  · exact fun _ _ _ => Ends.pure rfl
  · exact fun _ _ _ => Ends.pure trivial
  · exact hgoes.keepsSize

end Step

/-! ## Running steps -/

namespace Generation

variable {handlers : Registry StepHandler} {scene : Scene} {count : Nat}

/-- A fault in a step names it. -/
theorem ends_inStep {α : Type} {Q : α → Prop} {E : Fault → Prop} {x : Generation α}
    (h : Ends Q E x) (face : CardFace) {index : Nat} (kind : String) (hi : index < count) :
    Ends Q (Fault.OfStep face count) (inStep face index kind x) :=
  h.mapFault fun source _ => ⟨index, kind, source, hi, rfl⟩

theorem raises_priority (scene : Scene) {s : PlacedStep} (hi : s.index < count) :
    Raises (Fault.OfStep scene.scope.face count) (priority scene s) := by
  rw [priority]
  split
  · exact ends_inStep (Ends.trivially _) _ _ hi
  · exact Ends.pure trivial

/-- Ordering the steps of a face gives steps of the face. -/
theorem ends_orderSteps (scene : Scene) :
    Ends (fun steps => ∀ s ∈ steps, s.index < scene.scope.composition.steps.length)
      (Fault.OfStep scene.scope.face scene.scope.composition.steps.length) (orderSteps scene) := by
  rw [orderSteps]
  generalize hsteps : scene.scope.composition.steps.zipIdx.map _ = steps
  have hindex : ∀ s ∈ steps, s.index < scene.scope.composition.steps.length := by
    intro s hs
    rw [← hsteps] at hs
    obtain ⟨⟨step, i⟩, hi, rfl⟩ := List.mem_map.1 hs
    simpa using (List.mem_zipIdx hi).2.1
  refine Ends.bind (Raises.mapM fun s hs => raises_priority scene (hindex s hs))
    fun priorities _ => ?_
  have hfinish : ∀ s ∈ (Priority.order priorities).filterMap fun i => steps[i]?,
      s.index < scene.scope.composition.steps.length := by
    intro s hs
    obtain ⟨i, -, hi⟩ := List.mem_filterMap.1 hs
    exact hindex s (List.mem_of_getElem? hi)
  split
  · exact (Ends.of_modify _).bind fun _ _ => Ends.pure hfinish
  · exact Ends.pure hfinish

variable (hs : ∀ tag handler, handlers.get? tag = some handler → handler.KeepsSize)

include hs

theorem ends_runStep {s : PlacedStep} (hi : s.index < count) (canvas : Image) :
    Ends (fun flow? => ∀ flow ∈ flow?, StepFlow.Sized canvas.canvas.size flow)
      (Fault.OfStep scene.scope.face count) (runStep handlers scene s canvas) := by
  rw [runStep]
  refine (ends_inStep (Ends.trivially _) _ _ hi).bind fun params _ => ?_
  refine (ends_inStep (Ends.trivially _) _ _ hi).bind fun kind _ => ?_
  refine ends_inStep (E := fun _ => True) (Ends.after fun runs => ?_) _ _ hi
  split
  · split
    · exact Ends.throw trivial
    · next handler hk =>
      refine Ends.after fun _ => (hs kind handler hk scene params canvas).bind fun flow hflow => ?_
      exact Ends.pure (by simpa using hflow)
  · exact Ends.pure (by simp)

theorem ends_runSteps {steps : List PlacedStep} (hi : ∀ s ∈ steps, s.index < count)
    (canvas : Image) :
    Ends (fun image? => ∀ image ∈ image?, image.canvas.size = canvas.canvas.size)
      (Fault.OfStep scene.scope.face count) (runSteps handlers scene steps canvas) := by
  induction steps generalizing canvas with
  | nil => exact Ends.pure (by simp)
  | cons s rest ih =>
    rw [List.forall_mem_cons] at hi
    rw [runSteps]
    refine (ends_runStep hs hi.1 canvas).bind fun flow? hflow => ?_
    match flow? with
    | none => exact ih hi.2 canvas
    | some (.go next) =>
      have hnext : next.canvas.size = canvas.canvas.size := hflow _ rfl
      exact hnext ▸ ih hi.2 next
    | some (.stop last) =>
      have hlast : last.canvas.size = canvas.canvas.size := hflow _ rfl
      exact (Ends.of_modify _).bind fun _ _ => Ends.pure (by simpa using hlast)
    | some .cancel => exact (Ends.of_modify _).bind fun _ _ => Ends.pure (by simp)

/-- What is drawn has the size asked for. -/
theorem ends_drawSteps (scene : Scene) (size : Size) :
    Ends (fun image? => ∀ image ∈ image?, image.canvas.size = size)
      (Fault.OfStep scene.scope.face scene.scope.composition.steps.length)
      (drawSteps handlers scene size) := by
  rw [drawSteps]
  refine (Ends.of_modify _).bind fun _ _ => ?_
  have hnew : Ends (fun image => image.canvas.size = size)
      (Fault.OfStep scene.scope.face scene.scope.composition.steps.length)
      (newImage (.blank size.width size.height)) :=
    Ends.freshStamp.bind fun _ _ => Ends.pure rfl
  refine hnew.bind fun canvas hcanvas => ?_
  refine (ends_orderSteps scene).bind fun steps hsteps => ?_
  refine (ends_runSteps hs hsteps canvas).bind fun image? himage => ?_
  match image? with
  | none => exact Ends.pure (by simp)
  | some image =>
    refine (Ends.of_modify _).bind fun _ _ => Ends.pure ?_
    simpa [hcanvas] using himage

end Generation

/-! ## Drawing a face -/

namespace Press

variable {press : Press} (hc : Capabilities.standard = .ok press.capabilities)

include hc

/-- What is drawn for a face that can be composed has the size of its composition, and every fault
is one of its steps'. -/
theorem ends_drawFace {face : CardFace} {composition : Composition}
    (h : press.pool.compose face = .ok composition) (parents : Lineage) :
    Ends (fun image? => ∀ image ∈ image?, composition.size = some image.canvas.size)
      (Fault.OfStep face composition.steps.length) (press.drawFace parents face) := by
  have hsteps (tag : String) (handler : StepHandler)
      (hget : press.capabilities.steps.get? tag = some handler) : handler.KeepsSize :=
    Step.standard_keepsSize _ (Capabilities.mem_standard_steps hc hget)
  rw [drawFace_eq, drawOnce, h]
  refine (Ends.ofExcept (fails_ok composition)).bind fun _ hcomposition => ?_
  cases hcomposition
  cases hsize : composition.size with
  | none => exact Ends.pure (by simp)
  | some size =>
    refine Ends.inNewDraft ((ends_drawSteps hsteps _ size).mono ?_ fun _ => id)
    intro image? himage image hmem
    rw [himage image hmem]

end Press

end CardPress
