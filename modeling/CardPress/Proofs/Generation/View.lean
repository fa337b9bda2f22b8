import CardPress.Proofs.Capabilities
import CardPress.Proofs.Composition.Serials
import CardPress.Proofs.Generation.Drawing

/-!
# What is seen of a setting

Expressions and steps do not see all of the setting that they work in. A view hides part of it. If
everything in use only looks through a view, drawing gives the same in settings that look the same.

## Main definitions

* `View` — a way to look at settings that shows what running a step goes by.
* `Resolver.Within`, `StepHandler.Within` — only looking through a view.
* `View.bare` — of the face only its label, its steps and its size are seen, and no templates.
* `View.unnumbered` — serial numbers are not seen.

## Main results

* `Generation.drawSteps_scene_congr` — drawing the steps of a face only looks through a view.
* `Expression.standard_within_bare`, `Step.standard_within_bare` — the standard expressions and
  steps, apart from two expressions, only see the bare face.
* `Expression.standard_within_unnumbered` — none of them sees serial numbers.
-/

namespace CardPress

/-- A way to look at settings. -/
structure View where
  see : Setting → Setting
  config_see : ∀ setting, (see setting).config = setting.config
  label_see : ∀ setting, (see setting).scope.face.label = setting.scope.face.label

def Resolver.Within (view : View) (resolver : Resolver) : Prop :=
  ∀ setting resolve params,
    resolver ⟨view.see setting, resolve⟩ params = resolver ⟨setting, resolve⟩ params

def StepHandler.Within (view : View) (handler : StepHandler) : Prop :=
  ∀ setting resolve params canvas,
    handler ⟨view.see setting, resolve⟩ params canvas = handler ⟨setting, resolve⟩ params canvas

/-! ## Running steps -/

namespace Generation

variable {resolvers : Registry Resolver} {handlers : Registry StepHandler} {view : View}
  {setting : Setting}

/-- Of a face in a fault, only the label is seen. -/
theorem inStep_congr {α : Type} {face face' : CardFace} (h : face.label = face'.label)
    (index : Nat) (kind : String) (x : Generation α) :
    inStep face index kind x = inStep face' index kind x := by
  rw [inStep, inStep, h]

theorem displayLabel_congr {face face' : CardFace} (h : face.label = face'.label) :
    face.displayLabel = face'.displayLabel := by
  rw [CardFace.displayLabel, CardFace.displayLabel, h]

section Resolving

variable (hr : ∀ tag resolver, resolvers.get? tag = some resolver → resolver.Within view)

include hr

theorem unwrap_see (resolve : Value → Generation Value) (chain : Nat) (v : Value) :
    unwrap resolvers ⟨view.see setting, resolve⟩ chain v =
      unwrap resolvers ⟨setting, resolve⟩ chain v := by
  induction chain generalizing v with
  | zero =>
    cases v with
    | mapping params => rw [unwrap_mapping, unwrap_mapping, view.config_see]
    | null | bool | number | string | sequence | image | font => rfl
  | succ chain ih =>
    cases v with
    | mapping params =>
      rw [unwrap_mapping, unwrap_mapping]
      refine bind_congr fun kind? => ?_
      cases kind? with
      | none => rfl
      | some kind =>
        dsimp only
        cases hk : resolvers.get? kind with
        | none => rfl
        | some resolver =>
          dsimp only
          rw [hr kind resolver hk]
          exact bind_congr ih
    | null | bool | number | string | sequence | image | font => rfl

theorem resolve_see (depth : Nat) :
    resolve resolvers (view.see setting) depth = resolve resolvers setting depth := by
  induction depth with
  | zero =>
    funext v
    rw [resolve, resolve, view.config_see]
  | succ depth ih =>
    funext v
    rw [resolve_succ, resolve_succ, ih, view.config_see, unwrap_see hr]

end Resolving

variable (resolve : Value → Generation Value)

theorem priority_see (s : PlacedStep) :
    priority ⟨view.see setting, resolve⟩ s = priority ⟨setting, resolve⟩ s := by
  rw [priority, priority]
  cases s.step.get? priorityKey with
  | none => rfl
  | some v => exact inStep_congr (view.label_see setting) _ _ _

theorem orderSteps_see
    (hsteps : (view.see setting).scope.composition.steps = setting.scope.composition.steps) :
    orderSteps ⟨view.see setting, resolve⟩ = orderSteps ⟨setting, resolve⟩ := by
  rw [orderSteps, orderSteps, funext (priority_see resolve), hsteps,
    displayLabel_congr (view.label_see setting)]

variable (hs : ∀ tag handler, handlers.get? tag = some handler → handler.Within view)

include hs

theorem runStep_see (s : PlacedStep) (canvas : Image) :
    runStep handlers ⟨view.see setting, resolve⟩ s canvas =
      runStep handlers ⟨setting, resolve⟩ s canvas := by
  have hlabel := view.label_see setting
  rw [runStep, runStep]
  simp only [inStep_congr hlabel]
  refine bind_congr fun params => bind_congr fun kind => congrArg _ (bind_congr fun runs => ?_)
  split
  · cases hk : handlers.get? kind with
    | none => rfl
    | some handler =>
      dsimp only
      rw [hs kind handler hk]
  · rfl

theorem runSteps_see (steps : List PlacedStep) (canvas : Image) :
    runSteps handlers ⟨view.see setting, resolve⟩ steps canvas =
      runSteps handlers ⟨setting, resolve⟩ steps canvas := by
  induction steps generalizing canvas with
  | nil => rfl
  | cons s rest ih =>
    rw [runSteps, runSteps, runStep_see resolve hs, displayLabel_congr (view.label_see setting)]
    refine bind_congr fun flow? => ?_
    match flow? with
    | none => exact ih canvas
    | some (.go next) => exact ih next
    | some (.stop last) => rfl
    | some .cancel => rfl

theorem drawSteps_see
    (hsteps : (view.see setting).scope.composition.steps = setting.scope.composition.steps)
    (size : Size) :
    drawSteps handlers ⟨view.see setting, resolve⟩ size =
      drawSteps handlers ⟨setting, resolve⟩ size := by
  rw [drawSteps, drawSteps, orderSteps_see resolve hsteps,
    displayLabel_congr (view.label_see setting)]
  simp only [runSteps_see resolve hs]

/-- Drawing the steps of a face, where these are shown, gives the same in a setting that looks the
same. -/
theorem drawSteps_scene_see
    (hr : ∀ tag resolver, resolvers.get? tag = some resolver → resolver.Within view)
    (hsteps : (view.see setting).scope.composition.steps = setting.scope.composition.steps)
    (size : Size) :
    drawSteps handlers (scene resolvers (view.see setting)) size =
      drawSteps handlers (scene resolvers setting) size := by
  rw [scene, resolve_see hr, view.config_see, drawSteps_see _ hs hsteps]
  rfl

theorem drawSteps_scene_congr
    (hr : ∀ tag resolver, resolvers.get? tag = some resolver → resolver.Within view)
    (hsteps : ∀ setting, (view.see setting).scope.composition.steps =
      setting.scope.composition.steps)
    {setting' : Setting} (h : view.see setting = view.see setting') (size : Size) :
    drawSteps handlers (scene resolvers setting) size =
      drawSteps handlers (scene resolvers setting') size := by
  rw [← drawSteps_scene_see hs hr (hsteps setting), h, drawSteps_scene_see hs hr (hsteps setting')]

end Generation

/-! ## Standard steps -/

namespace Step

variable (view : View)

theorem within_writeToCache : writeToCache.Within view := by
  intro setting resolve params canvas
  have hlog (params : Mapping) : Scene.shouldLog ⟨view.see setting, resolve⟩ params =
      Scene.shouldLog ⟨setting, resolve⟩ params := by
    rw [Scene.shouldLog, Scene.shouldLog, view.config_see]
    rfl
  have hread : CacheWriting.read ⟨view.see setting, resolve⟩ params =
      CacheWriting.read ⟨setting, resolve⟩ params := by
    rw [CacheWriting.read, CacheWriting.read, hlog]
    rfl
  have hentries (w : CacheWriting) (entries : List (String × Value)) :
      w.writeEntries ⟨view.see setting, resolve⟩ entries =
        w.writeEntries ⟨setting, resolve⟩ entries := by
    induction entries with
    | nil => rfl
    | cons e rest ih =>
      rw [CacheWriting.writeEntries, CacheWriting.writeEntries, ih]
      rfl
  rw [writeToCache, writeToCache, hread]
  simp only [hentries]
  rfl

theorem within_save : save.Within view := by
  intro setting resolve params canvas
  have hdirectory : directory ⟨view.see setting, resolve⟩ params =
      directory ⟨setting, resolve⟩ params := by
    rw [directory, directory, view.config_see]
    rfl
  have hname : fileName ⟨view.see setting, resolve⟩ params =
      fileName ⟨setting, resolve⟩ params := by
    rw [fileName, fileName, view.label_see]
    rfl
  rw [save, save, hdirectory, hname, Generation.displayLabel_congr (view.label_see setting)]
  rfl

/-- The standard steps see nothing but what every view shows. -/
theorem standard_within : ∀ e ∈ standard.steps, StepHandler.Within view e.2 := by
  simp only [standard, List.forall_mem_cons, List.not_mem_nil, false_imp_iff, implies_true,
    and_true]
  exact ⟨within_writeToCache view, fun _ _ _ _ => rfl, fun _ _ _ _ => rfl, within_save view,
    fun _ _ _ _ => rfl, fun _ _ _ _ => rfl⟩

end Step

/-! ## Bare faces -/

/-- Of the face, its label, its steps and its size, and no templates. -/
def View.bare : View where
  see setting := {
    config := setting.config
    scope := ⟨{ CardFace.empty 0 with label := setting.scope.face.label },
      ⟨[], setting.scope.composition.steps, setting.scope.composition.size⟩⟩
    parents := setting.parents
    draw := fun _ => throw .unlabelledTemplate }
  config_see _ := rfl
  label_see _ := rfl

/-- The standard expressions, but for the face's attributes and for its templates, see no more than
the bare face. -/
theorem Expression.standard_within_bare : ∀ e ∈ standard.resolvers,
    e.1 = "self" ∨ e.1 = "image_from_template" ∨ Resolver.Within .bare e.2 := by
  simp only [standard, List.forall_mem_cons, List.not_mem_nil, false_imp_iff, implies_true,
    and_true]
  refine ⟨.inl trivial, ?_, ?_, ?_, ?_, ?_, ?_, ?_, ?_, ?_, ?_, .inr (.inl trivial), ?_, ?_, ?_⟩
  all_goals exact .inr (.inr fun _ _ _ => rfl)

/-! ## Serial numbers -/

def Scope.unnumbered (scope : Scope) : Scope :=
  ⟨scope.face.unnumbered, scope.composition.unnumbered⟩

@[simp] theorem Scope.snapshot_unnumbered (scope : Scope) :
    scope.unnumbered.snapshot = scope.snapshot := rfl

/-- Everything but the serial numbers of faces. -/
def View.unnumbered : View where
  see setting := { setting with
    scope := setting.scope.unnumbered
    parents := setting.parents.map Scope.unnumbered }
  config_see _ := rfl
  label_see _ := rfl

theorem Expression.parent_within_unnumbered : Resolver.Within .unnumbered parent := by
  intro setting resolve params
  simp [parent, View.unnumbered, Function.comp_def]

/-- No standard expression sees serial numbers. -/
theorem Expression.standard_within_unnumbered :
    ∀ e ∈ standard.resolvers, Resolver.Within .unnumbered e.2 := by
  simp only [standard, List.forall_mem_cons, List.not_mem_nil, false_imp_iff, implies_true,
    and_true]
  refine ⟨?_, parent_within_unnumbered, ?_, ?_, ?_, ?_, ?_, ?_, ?_, ?_, ?_, ?_, ?_, ?_, ?_⟩
  all_goals exact fun _ _ _ => rfl

end CardPress
