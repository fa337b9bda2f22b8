import CardPress.Proofs.Generation.FailingStep
import CardPress.Proofs.Generation.OneFaceApart
import CardPress.Proofs.Generation.View
import CardPress.Proofs.Step.CanvasSize

/-!
# Steps behind the end of a drawing

A step that stops or cancels a drawing leaves out those that come after it in the order of the
priorities. All that these contribute to the drawing are their priorities, which are resolved before
any step runs: with others in their place that have the same ones, be they steps of no known kind or
no steps at all, the drawing is the same. Only the drawing that the step belongs to ends there, and
not the one on whose behalf it is done.

## Main definitions

* `Generation.Executes` — a step is executed after those before it.
* `Scope.Replaced` — a face with others in place of some of its steps.

## Main results

* `Generation.drawSteps_of_executes` — what becomes of a drawing that ends early.
* `Generation.drawSteps_replaced` — it does not depend on the steps behind the end.
* `Press.drawFace_ended` — the same for drawing faces, for their own sake or on behalf of others.
-/

namespace CardPress

open Generation

/-- A face with others in place of the steps at some places, with the same priorities. -/
structure Scope.Replaced (places : List ℕ) (scope scope' : Scope) : Prop where
  face : { scope'.face with steps := scope.face.steps } = scope.face
  size : scope'.composition.size = scope.composition.size
  priorities : scope'.composition.steps.map (·.get? priorityKey) =
    scope.composition.steps.map (·.get? priorityKey)
  kept : ∀ i, i ∉ places → scope'.composition.steps[i]? = scope.composition.steps[i]?

namespace Scope.Replaced

variable {places : List ℕ} {scope scope' : Scope} (h : Scope.Replaced places scope scope')

include h

theorem label : scope'.face.label = scope.face.label := by
  rw [← h.face]

theorem mark : scope'.mark = scope.mark := by
  rw [Scope.mark, Scope.mark, displayLabel_congr h.label, ← h.face]

theorem snapshot : scope'.snapshot = scope.snapshot := by
  rw [Scope.snapshot, Scope.snapshot, h.size, ← h.face]

end Scope.Replaced

/-! ## How a drawing ends early -/

/-- What a step leaves of the drawing that it ends: a canvas, or nothing. -/
def StepFlow.early : StepFlow → Option (Option Image)
  | .go _ => none
  | .stop last => some (some last)
  | .cancel => some none

namespace Generation

variable {handlers : Registry StepHandler} {scene : Scene} {size : Size} {s t : State}
  {before after : List PlacedStep} {p : PlacedStep} {canvas : Image} {kind : String}
  {flow : StepFlow} {last : Option Image}

/-- The kind that a step says it is of. -/
def kindOf (scene : Scene) (p : PlacedStep) : Generation String := do
  let params ← p.step.readMapping "step"
  (← scene.param params typeKey).readString typeKey

/-- In the order of the priorities, some steps are run or left out, which leads to a canvas, and the
next one is executed on this as a step of some kind. -/
def Executes (handlers : Registry StepHandler) (scene : Scene) (size : Size) (s : State)
    (before : List PlacedStep) (p : PlacedStep) (after : List PlacedStep) (canvas : Image)
    (kind : String) (flow : StepFlow) (t : State) : Prop :=
  ∃ blank u v w w', blankImage scene.scope.face size s = .ok blank u ∧
    orderSteps scene u = .ok (before ++ p :: after) v ∧
    Processes handlers scene before blank v canvas w ∧
    kindOf scene p w = .ok kind w' ∧ runStep handlers scene p canvas w = .ok (some flow) t

/-- What is left to do when a step has ended a drawing. -/
def ending (scene : Scene) (p : PlacedStep) : Option Image → Generation (Option Image)
  | some last => do
    info "Step requested stop, finishing early" [("index", toString p.index)]
    info "Card face generated" [("label", scene.scope.face.displayLabel)]
    return some last
  | none => do
    info "Generation cancelled" [
      ("label", scene.scope.face.displayLabel), ("index", toString p.index)]
    return none

/-- It gives what the step left and changes nothing but the log. -/
theorem ending_ok (scene : Scene) (p : PlacedStep) (last : Option Image) (s : State) :
    ∃ t, ending scene p last s = .ok last t ∧ t.draft = s.draft ∧
      t.run.globalCache = s.run.globalCache ∧ t.run.files = s.run.files := by
  cases last <;> exact ⟨_, rfl, rfl, rfl, rfl⟩

/-- A drawing ends at a step that says so, whatever comes after it. -/
theorem drawSteps_of_executes (h : Executes handlers scene size s before p after canvas kind flow t)
    (hearly : flow.early = some last) :
    drawSteps handlers scene size s = ending scene p last t := by
  obtain ⟨blank, u, v, w, w', hblank, horder, hbefore, -, hp⟩ := h
  rw [drawSteps_eq, bind_of_ok _ hblank, bind_of_ok _ horder]
  show (runSteps handlers scene (before ++ p :: after) blank >>= _) v = _
  cases flow with
  | go next => cases hearly
  | stop canvas =>
    cases hearly
    have hruns : runSteps handlers scene (before ++ p :: after) blank v =
        (do
          info "Step requested stop, finishing early" [("index", toString p.index)]
          return some canvas) t := by
      rw [runSteps_of_processes hbefore, runSteps, bind_of_ok _ hp]
    rw [bind_of_ok _ hruns]
    rfl
  | cancel =>
    cases hearly
    have hruns : runSteps handlers scene (before ++ p :: after) blank v =
        (do
          info "Generation cancelled" [
            ("label", scene.scope.face.displayLabel), ("index", toString p.index)]
          return none) t := by
      rw [runSteps_of_processes hbefore, runSteps, bind_of_ok _ hp]
    rw [bind_of_ok _ hruns]
    rfl

/-! ## The order of the steps -/

/-- The places of the steps in running order. -/
def orderPlaces (scene : Scene) : Generation (List ℕ) := do
  let priorities ← (placedSteps scene).mapM (priority scene)
  if 1 < (placedSteps scene).length && !Priority.allComparable priorities then
    log .warn "Step priorities are not comparable, using declaration order" [
      ("label", scene.scope.face.displayLabel)]
  return Priority.order priorities

theorem orderSteps_eq (scene : Scene) :
    orderSteps scene = (do
      let order ← orderPlaces scene
      return order.filterMap fun i => (placedSteps scene)[i]?) := by
  rw [orderSteps, orderPlaces, bind_assoc, ← placedSteps]
  refine bind_congr fun priorities => ?_
  cases decide (1 < (placedSteps scene).length) && !Priority.allComparable priorities <;> rfl

/-- Only places of steps are put in order, each of them once. -/
theorem perm_of_orderPlaces {order : List ℕ} (h : orderPlaces scene s = .ok order t) :
    order.Perm (List.range scene.scope.composition.steps.length) := by
  obtain ⟨priorities, u, hpriorities, h⟩ := bind_ok_iff.1 h
  have hlength : scene.scope.composition.steps.length = priorities.length := by
    rw [← length_placedSteps]
    exact (forall₂_of_mapM_ok hpriorities).length_eq
  have horder : order = Priority.order priorities := by
    split at h
    · obtain ⟨_, _, -, h⟩ := bind_ok_iff.1 h
      exact (pure_ok_iff.1 h).1.symm
    · exact (pure_ok_iff.1 h).1.symm
  rw [horder, hlength]
  exact Priority.order_perm priorities

/-- Of the steps, only their priorities have a part in their order. -/
theorem orderPlaces_congr {scene' : Scene}
    (hlabel : scene'.scope.face.label = scene.scope.face.label)
    (hresolve : scene'.resolve = scene.resolve)
    (hpriorities : scene'.scope.composition.steps.map (·.get? priorityKey) =
      scene.scope.composition.steps.map (·.get? priorityKey)) :
    orderPlaces scene' = orderPlaces scene := by
  have hlength : (placedSteps scene').length = (placedSteps scene).length := by
    rw [length_placedSteps, length_placedSteps]
    simpa using congrArg List.length hpriorities
  have hpriority (scene : Scene) : (placedSteps scene).mapM (priority scene) =
      (scene.scope.composition.steps.map (·.get? priorityKey)).zipIdx.mapM fun x =>
        x.1.elim (return .null) fun v =>
          inStep scene.scope.face x.2 priorityKey (scene.resolve v) := by
    rw [placedSteps, List.zipIdx_map, List.mapM_map, List.mapM_map]
    refine congrArg (List.mapM · _) (funext fun x => ?_)
    show priority scene ⟨x.2, x.1⟩ = (x.1.get? priorityKey).elim _ _
    rw [priority]
    cases x.1.get? priorityKey <;> rfl
  rw [orderPlaces, orderPlaces, hlength, hpriority, hpriority, hpriorities, hresolve,
    displayLabel_congr hlabel]
  simp only [inStep_congr hlabel]

/-- Steps that are found at their places are those of the places. -/
theorem filterMap_map_index {f : ℕ → Option PlacedStep} {steps : List PlacedStep}
    (h : ∀ q ∈ steps, f q.index = some q) : (steps.map (·.index)).filterMap f = steps := by
  induction steps with
  | nil => rfl
  | cons q rest ih =>
    rw [List.forall_mem_cons] at h
    rw [List.map_cons, List.filterMap_cons_some h.1, ih h.2]

/-- With others in place of some steps behind it, the order up to a step is as it was. -/
theorem orderSteps_replaced {scene' : Scene}
    (h : Scope.Replaced (after.map (·.index)) scene.scope scene'.scope)
    (hresolve : scene'.resolve = scene.resolve)
    (horder : orderSteps scene s = .ok (before ++ p :: after) t) :
    ∃ after', orderSteps scene' s = .ok (before ++ p :: after') t := by
  rw [orderSteps_eq] at horder
  obtain ⟨order, u, hplaces, hpure⟩ := bind_ok_iff.1 horder
  obtain ⟨hordered, rfl⟩ := pure_ok_iff.1 hpure
  have hperm := perm_of_orderPlaces hplaces
  have hindex : order = (before ++ [p]).map (·.index) ++ after.map (·.index) := by
    rw [← filterMap_placedSteps fun i hi => List.mem_range.1 (hperm.mem_iff.1 hi), hordered]
    simp
  have hnodup : order.Nodup := hperm.nodup_iff.2 List.nodup_range
  have hkept : ∀ q ∈ before ++ [p], (placedSteps scene')[q.index]? = some q := by
    intro q hq
    have hmem : q ∈ order.filterMap fun i => (placedSteps scene)[i]? := by
      rw [hordered, List.append_cons]
      exact List.mem_append_left after hq
    obtain ⟨i, -, hi⟩ := List.mem_filterMap.1 hmem
    have hi' := hi
    rw [getElem?_placedSteps] at hi'
    obtain ⟨step, -, rfl⟩ := Option.map_eq_some_iff.1 hi'
    have hbehind : i ∉ after.map (·.index) := by
      rw [hindex] at hnodup
      exact fun hmem => (List.nodup_append.1 hnodup).2.2 i (List.mem_map_of_mem hq) i hmem rfl
    rw [getElem?_placedSteps] at hi ⊢
    rw [h.kept i hbehind]
    exact hi
  refine ⟨(after.map (·.index)).filterMap fun i => (placedSteps scene')[i]?, ?_⟩
  rw [orderSteps_eq, orderPlaces_congr h.label hresolve h.priorities, bind_of_ok _ hplaces, hindex,
    List.filterMap_append, filterMap_map_index hkept, ← List.append_cons]
  rfl

/-- Steps that are run in the same way are processed in the same way. -/
theorem Processes.congr {scene' : Scene}
    (hruns : ∀ q canvas, runStep handlers scene' q canvas = runStep handlers scene q canvas)
    {canvas canvas' : Image} (h : Processes handlers scene before canvas s canvas' t) :
    Processes handlers scene' before canvas s canvas' t := by
  induction h with
  | nil => exact .nil
  | skip h _ ih => exact .skip ((congrFun (hruns _ _) _).trans h) ih
  | run h _ ih => exact .run ((congrFun (hruns _ _) _).trans h) ih

/-- With others in place of some steps behind it, a step is executed as it was. -/
theorem Executes.replaced
    (hexecutes : Executes handlers scene size s before p after canvas kind flow t) (scene' : Scene)
    (h : Scope.Replaced (after.map (·.index)) scene.scope scene'.scope)
    (hresolve : scene'.resolve = scene.resolve)
    (hruns : ∀ q canvas, runStep handlers scene' q canvas = runStep handlers scene q canvas) :
    ∃ after', Executes handlers scene' size s before p after' canvas kind flow t := by
  obtain ⟨blank, u, v, w, w', hblank, horder, hbefore, hkind, hp⟩ := hexecutes
  obtain ⟨after', horder'⟩ := orderSteps_replaced h hresolve horder
  have hblank' : blankImage scene'.scope.face size s = .ok blank u := by
    rw [← hblank, blankImage, blankImage, displayLabel_congr h.label]
  have hkind' : kindOf scene' p w = .ok kind w' := by
    rw [← hkind]
    simp only [kindOf, Scene.param, hresolve]
  exact ⟨after', blank, u, v, w, w', hblank', horder', hbefore.congr hruns, hkind',
    (congrFun (hruns _ _) _).trans hp⟩

end Generation

/-! ## Behind the end -/

/-- Everything but what the face inherits and which steps it has. -/
def View.stepless : View where
  see setting := { setting with
    scope := ⟨{ setting.scope.face with steps := [] }, ⟨[], [], setting.scope.composition.size⟩⟩ }
  config_see _ := rfl
  label_see _ := rfl

/-- No standard expression sees the steps of its face. -/
theorem Expression.standard_within_stepless :
    ∀ e ∈ standard.resolvers, Resolver.Within .stepless e.2 := by
  simp only [standard, List.forall_mem_cons, List.not_mem_nil, false_imp_iff, implies_true,
    and_true]
  refine ⟨?_, ?_, ?_, ?_, ?_, ?_, ?_, ?_, ?_, ?_, ?_, ?_, ?_, ?_, ?_⟩
  all_goals exact fun _ _ _ => rfl

namespace Generation

variable {resolvers : Registry Resolver} {handlers : Registry StepHandler}
  (hr : ∀ tag resolver, resolvers.get? tag = some resolver → resolver.Within .stepless)
  (hs : ∀ tag handler, handlers.get? tag = some handler → handler.Within .stepless)

include hr hs

/-- A drawing that ends early is the same with others in place of the steps behind its end, if
templates are drawn alike. -/
theorem drawSteps_replaced {setting setting' : Setting} {size : Size} {s t : State}
    {before after : List PlacedStep} {p : PlacedStep} {canvas : Image} {kind : String}
    {flow : StepFlow} {last : Option Image}
    (h : Scope.Replaced (after.map (·.index)) setting.scope setting'.scope)
    (hconfig : setting'.config = setting.config) (hparents : setting'.parents = setting.parents)
    (hdraw : setting'.draw = setting.draw)
    (hexecutes :
      Executes handlers (scene resolvers setting) size s before p after canvas kind flow t)
    (hearly : flow.early = some last) :
    drawSteps handlers (scene resolvers setting') size s =
      drawSteps handlers (scene resolvers setting) size s := by
  have hface : { setting'.scope.face with steps := [] } =
      { setting.scope.face with steps := [] } :=
    congrArg (fun face : CardFace => { face with steps := [] }) h.face
  have hsee : View.stepless.see setting' = View.stepless.see setting := by
    simp only [View.stepless, hface, h.size, hconfig, hparents, hdraw]
  have hresolve : (scene resolvers setting').resolve = (scene resolvers setting).resolve := by
    rw [scene, scene, ← resolve_see hr, hsee, resolve_see hr, hconfig]
  have hruns (q : PlacedStep) (canvas : Image) :
      runStep handlers (scene resolvers setting') q canvas =
        runStep handlers (scene resolvers setting) q canvas := by
    show runStep handlers ⟨setting', (scene resolvers setting').resolve⟩ q canvas =
      runStep handlers ⟨setting, (scene resolvers setting).resolve⟩ q canvas
    rw [hresolve, ← runStep_see _ hs, hsee, runStep_see _ hs]
  have hending : ending (scene resolvers setting') p = ending (scene resolvers setting) p := by
    funext last
    cases last <;> simp only [ending, scene, displayLabel_congr h.label]
  obtain ⟨after', hexecutes'⟩ :=
    hexecutes.replaced (scene resolvers setting') h hresolve hruns
  rw [drawSteps_of_executes hexecutes' hearly, hending, drawSteps_of_executes hexecutes hearly]

end Generation

/-! ## Standard steps -/

namespace Capabilities

variable {c : Capabilities} (hc : standard = .ok c)

include hc

/-- Only a step that is there to stop or cancel its drawing ends it, on the canvas that it was
given; every other one that does not fail goes on. -/
theorem runStep_cases {scene : Scene} {p : PlacedStep} {canvas : Image} {flow : StepFlow}
    {s t : State} (h : runStep c.steps scene p canvas s = .ok (some flow) t) :
    ∃ kind u, kindOf scene p s = .ok kind u ∧
      (kind = "stop" ∧ flow = .stop canvas ∨ kind = "cancel" ∧ flow = .cancel ∨
        kind ≠ "stop" ∧ kind ≠ "cancel" ∧ ∃ next, flow = .go next) := by
  rw [runStep] at h
  obtain ⟨params, u, hparams, h⟩ := bind_ok_iff.1 h
  obtain ⟨kind, v, hkind, h⟩ := bind_ok_iff.1 h
  refine ⟨kind, v, (bind_of_ok _ (mapFault_ok_iff.1 hparams)).trans (mapFault_ok_iff.1 hkind), ?_⟩
  obtain ⟨runs, w, -, h⟩ := bind_ok_iff.1 (mapFault_ok_iff.1 h)
  cases runs with
  | false => cases (pure_ok_iff.1 h).1
  | true =>
    rw [if_pos rfl] at h
    cases hget : c.steps.get? kind with
    | none =>
      rw [hget] at h
      cases h
    | some handler =>
      rw [hget] at h
      obtain ⟨_, x, -, h⟩ := bind_ok_iff.1 h
      obtain ⟨given, y, hgiven, h⟩ := bind_ok_iff.1 h
      obtain rfl := Option.some.inj (pure_ok_iff.1 h).1
      have hmem := mem_standard_steps hc hget
      rw [(standard_get? hc).2] at hget
      by_cases hstop : kind = "stop"
      · subst hstop
        obtain rfl : Step.stop = handler := Option.some.inj hget
        exact .inl ⟨rfl, (pure_ok_iff.1 hgiven).1.symm⟩
      by_cases hcancel : kind = "cancel"
      · subst hcancel
        obtain rfl : Step.cancel = handler := Option.some.inj hget
        exact .inr (.inl ⟨rfl, (pure_ok_iff.1 hgiven).1.symm⟩)
      rcases Step.standard_goesOn _ hmem with h | h | hgoes
      · exact absurd (congrArg Prod.fst h) hstop
      · exact absurd (congrArg Prod.fst h) hcancel
      · obtain ⟨next, hnext, -⟩ := (hgoes scene params canvas).gives hgiven
        exact .inr (.inr ⟨hstop, hcancel, next, hnext⟩)

/-- So a step of either kind leaves the canvas that it was given, or nothing. -/
theorem early_of_executes {scene : Scene} {size : Size} {s t : State}
    {before after : List PlacedStep}
    {p : PlacedStep} {canvas : Image} {kind : String} {flow : StepFlow}
    (h : Executes c.steps scene size s before p after canvas kind flow t)
    (hkind : kind = "stop" ∨ kind = "cancel") :
    flow.early = some (if kind = "stop" then some canvas else none) := by
  obtain ⟨_, _, _, w, _, -, -, -, hkindOf, hp⟩ := h
  obtain ⟨kind', _, hkindOf', hcases⟩ := runStep_cases hc hp
  cases hkindOf.symm.trans hkindOf'
  rcases hcases with ⟨rfl, rfl⟩ | ⟨rfl, rfl⟩ | ⟨hstop, hcancel, -⟩
  · rfl
  · rfl
  · exact absurd hkind (not_or.2 ⟨hstop, hcancel⟩)

end Capabilities

/-! ## Faces -/

namespace Press

variable {press : Press}

/-- With others in place of some steps of a face, and with a pool that differs only in the face,
other templates are drawn alike on its behalf. -/
theorem request_replaced (hc : Capabilities.standard = .ok press.capabilities)
    {pool' : TemplatePool}
    {scope scope' : Scope} (hpool : press.pool.SameBut scope.face.serial pool') {places : List ℕ}
    (h : Scope.Replaced places scope scope') (parents : Lineage) :
    (press.withPool pool').request (press.withPool pool').drawFace (scope' :: parents) =
      press.request press.drawFace (scope :: parents) := by
  have hmarks : (scope :: parents).map Scope.mark = (scope' :: parents).map Scope.mark := by
    rw [List.map_cons, List.map_cons, h.mark]
  have hdrawn : ∃ mark ∈ (scope :: parents).map Scope.mark, mark.1 = scope.face.serial :=
    ⟨scope.mark, List.mem_cons_self, rfl⟩
  refine (request_sameBut hpool hmarks hdrawn fun label template _ hcompose _ => ?_).symm
  exact drawFace_sameBut hpool hmarks hdrawn hc (congrArg some h.snapshot.symm) hcompose

/-- Let a face, drawn for its own sake or on behalf of others, come to a step that stops or cancels
the drawing. What comes of it is the canvas as the steps before this one have left it, or nothing,
with what was stored and written by then. All of this is the same with others, whatever they are, in
place of the steps behind it, as long as the priorities remain, and with a pool that has the face
so. And no step of another kind ends a drawing, such as one on whose behalf the face is drawn. -/
theorem drawFace_ended (press : Press) (hc : Capabilities.standard = .ok press.capabilities)
    (parents : Lineage) {face : CardFace} {composition : Composition}
    (hcompose : press.pool.compose face = .ok composition) {size : Size}
    (hsize : composition.size = some size) {s t : State} {before after : List PlacedStep}
    {p : PlacedStep} {canvas : Image} {kind : String} {flow : StepFlow}
    (hkind : kind = "stop" ∨ kind = "cancel")
    (hexecutes : Executes press.capabilities.steps (press.sceneIn ⟨face, composition⟩ parents) size
      (.fresh s.run) before p after canvas kind flow t) :
    let drawn (press : Press) (scope : Scope) := drawSteps press.capabilities.steps
      (press.sceneIn scope parents) size (.fresh s.run)
    let last := if kind = "stop" then some canvas else none
    (∃ u, drawn press ⟨face, composition⟩ = .ok last u ∧ u.draft = t.draft ∧
      u.run.globalCache = t.run.globalCache ∧ u.run.files = t.run.files ∧
      press.drawFace parents face s = .ok last { s with run := u.run }) ∧
    (∀ pool' face' composition', press.pool.SameBut face.serial pool' →
      Scope.Replaced (after.map (·.index)) ⟨face, composition⟩ ⟨face', composition'⟩ →
        drawn (press.withPool pool') ⟨face', composition'⟩ = drawn press ⟨face, composition⟩ ∧
          (pool'.compose face' = .ok composition' →
            (press.withPool pool').drawFace parents face' s = press.drawFace parents face s)) ∧
    ∀ scope grandparents q image u flow' v,
      runStep press.capabilities.steps (press.sceneIn scope grandparents) q image u =
        .ok (some flow') v →
      ∃ kind' w, kindOf (press.sceneIn scope grandparents) q u = .ok kind' w ∧
        (kind' = "stop" ∧ flow' = .stop image ∨ kind' = "cancel" ∧ flow' = .cancel ∨
          kind' ≠ "stop" ∧ kind' ≠ "cancel" ∧ ∃ next, flow' = .go next) := by
  intro drawn last
  have hearly := Capabilities.early_of_executes hc hexecutes hkind
  refine ⟨?_, fun pool' face' composition' hpool hreplaced => ?_, ?_⟩
  · obtain ⟨u, hu, hdraft, hcache, hfiles⟩ :=
      ending_ok (press.sceneIn ⟨face, composition⟩ parents) p last t
    have hdrawn : drawn press ⟨face, composition⟩ = .ok last u :=
      (drawSteps_of_executes hexecutes hearly).trans hu
    refine ⟨u, hdrawn, hdraft, hcache, hfiles, ?_⟩
    rw [drawFace_of_compose hcompose hsize]
    exact inNewDraft_of_ok hdrawn
  · have hresolvers (tag : String) (resolver : Resolver)
        (hget : press.capabilities.resolvers.get? tag = some resolver) :
        resolver.Within .stepless :=
      Expression.standard_within_stepless _ (Capabilities.mem_standard_resolvers hc hget)
    have hsteps (tag : String) (handler : StepHandler)
        (hget : press.capabilities.steps.get? tag = some handler) : handler.Within .stepless :=
      Step.standard_within .stepless _ (Capabilities.mem_standard_steps hc hget)
    have hdrawn : drawn (press.withPool pool') ⟨face', composition'⟩ =
        drawn press ⟨face, composition⟩ :=
      drawSteps_replaced hresolvers hsteps hreplaced rfl rfl
        (request_replaced hc hpool hreplaced parents) hexecutes hearly
    refine ⟨hdrawn, fun hcompose' => ?_⟩
    have hcompose' : (press.withPool pool').pool.compose face' = .ok composition' := hcompose'
    rw [drawFace_of_compose hcompose hsize,
      drawFace_of_compose hcompose' (hreplaced.size.trans hsize)]
    exact inNewDraft_apply_congr hdrawn
  · exact fun _ _ _ _ _ _ _ h => Capabilities.runStep_cases hc h

/-- A step that goes before those declared before it. -/
def binding : Value :=
  .mapping <| Dict.ofList [
    (typeKey, .string "write_to_cache"), (priorityKey, .bool true), ("key", .string "early"),
    ("value", .bool true), ("is_global", .bool true)]

def halting : Value :=
  .mapping <| Dict.ofList [(typeKey, .string "stop")]

/-- A face that binds a key and stops, with some value declared as a step behind the end. -/
def stopping (behind : Value) : CardFace :=
  { CardFace.empty 0 with
    label := some "stopping"
    size := some ⟨1, 1⟩
    steps := [halting, behind, binding] }

/-- The image is as blank as before the key was bound, whatever is declared behind the end. -/
theorem drawFace_ended_stopping :
    let press : Press := ⟨Capabilities.table, .empty, .standard⟩
    let composition (behind : Value) : Composition :=
      ⟨[], (stopping behind).steps, (stopping behind).size⟩
    let s : State := opening (.start .empty ∅)
    let blank : Image := ⟨1, .blank 1 1⟩
    ∃ t u, Capabilities.standard = .ok press.capabilities ∧
      press.pool.compose (stopping .null) = .ok (composition .null) ∧
      Executes press.capabilities.steps
        (press.sceneIn ⟨stopping .null, composition .null⟩ []) ⟨1, 1⟩
        (.fresh s.run) [⟨2, binding⟩] ⟨0, halting⟩ [⟨1, .null⟩] blank
        "stop" (.stop blank) t ∧
      press.drawFace [] (stopping .null) s = .ok (some blank) u ∧
      u.run.globalCache = t.run.globalCache ∧ t.run.globalCache.contains "early" = true ∧
      ∀ behind : Value, behind.get? priorityKey = none →
        press.drawFace [] (stopping behind) s = press.drawFace [] (stopping .null) s := by
  intro press composition s blank
  have hcompose (behind : Value) :
      press.pool.compose (stopping behind) = .ok (composition behind) := by cbv
  let scene := press.sceneIn ⟨stopping .null, composition .null⟩ []
  let run p := runStep press.capabilities.steps scene p blank
  let u := stateAfter (blankImage (stopping .null) ⟨1, 1⟩) s
  let v := stateAfter (orderSteps scene) u
  let w := stateAfter (run ⟨2, binding⟩) v
  let t := stateAfter (run ⟨0, halting⟩) w
  have hblank : blankImage (stopping .null) ⟨1, 1⟩ s = .ok blank u :=
    eq_ok_iff.2 ⟨by simp only [s]; cbv, rfl⟩
  have horder : orderSteps scene u = .ok [⟨2, binding⟩, ⟨0, halting⟩, ⟨1, .null⟩] v :=
    eq_ok_iff.2 ⟨by simp only [u, scene, s, composition, press]; cbv, rfl⟩
  have hbinding : run ⟨2, binding⟩ v = .ok (some (.go blank)) w :=
    eq_ok_iff.2 ⟨by simp only [run, v, u, scene, s, composition, press]; cbv, rfl⟩
  have hkind :
      kindOf scene ⟨0, halting⟩ w = .ok "stop" (stateAfter (kindOf scene ⟨0, halting⟩) w) :=
    eq_ok_iff.2 ⟨by simp only [w, run, v, u, scene, s, composition, press]; cbv, rfl⟩
  have hhalting : run ⟨0, halting⟩ w = .ok (some (.stop blank)) t :=
    eq_ok_iff.2 ⟨by simp only [w, run, v, u, scene, s, composition, press]; cbv, rfl⟩
  have hearly : t.run.globalCache.contains "early" = true := by
    simp only [t, w, run, v, u, scene, s, composition, press]
    cbv
  have hexecutes : Executes press.capabilities.steps scene ⟨1, 1⟩ s [⟨2, binding⟩] ⟨0, halting⟩
      [⟨1, .null⟩] blank "stop" (.stop blank) t :=
    ⟨blank, u, v, w, _, hblank, horder, .run hbinding .nil, hkind, hhalting⟩
  obtain ⟨⟨ended, -, -, hcache, -, hdrawn⟩, hothers, -⟩ := drawFace_ended (s := s) press
    Capabilities.standard_eq_table [] (hcompose .null) rfl (.inl rfl) hexecutes
  refine ⟨t, _, Capabilities.standard_eq_table, hcompose .null, hexecutes, hdrawn, hcache, hearly,
    fun behind hpriority => ?_⟩
  refine (hothers .empty (stopping behind) (composition behind) (TemplatePool.sameBut_self _ _)
    ⟨rfl, rfl, ?_, fun i hi => ?_⟩).2 (hcompose behind)
  · show [halting, behind, binding].map (·.get? priorityKey) = _
    rw [List.map_cons, List.map_cons, hpriority]
    rfl
  · rcases i with _ | _ | i
    · rfl
    · exact absurd List.mem_cons_self hi
    · rfl

end Press

end CardPress
