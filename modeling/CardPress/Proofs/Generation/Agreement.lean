import CardPress.Proofs.Capabilities
import CardPress.Proofs.Generation.Bounds
import CardPress.Proofs.Generation.Calm

/-!
# From expressions and steps to whole drawings

If the expressions and the steps of two presses go alike, so does resolving values, running steps
and drawing faces, however deep templates are drawn within each other. The induction is on the
templates that are not being drawn yet, as in the drawing itself.

## Main results

* `Generation.agree_resolve` — resolving with registries that agree.
* `Press.agree_drawFace` — drawing a face with presses that do.
-/

namespace CardPress

open Generation

variable {F : Fault → Prop} {R : State → State → Prop}

/-- The same tags, with entries that agree. -/
def Registry.Agree {α : Type} (A : α → α → Prop) (r r' : Registry α) : Prop :=
  ∀ tag, Option.Rel A (r.get? tag) (r'.get? tag)

theorem Registry.Agree.mono {α : Type} {A B : α → α → Prop} {r r' : Registry α}
    (h : Registry.Agree A r r') (hAB : ∀ x y, A x y → B x y) : Registry.Agree B r r' := by
  intro tag
  have htag := h tag
  generalize r.get? tag = x, r'.get? tag = y at htag ⊢
  cases htag with
  | none => exact .none
  | some hxy => exact .some (hAB _ _ hxy)

/-- Steps that go alike in two scenes. -/
def StepHandler.AgreeIn (R : State → State → Prop) (scene scene' : Scene) (x y : StepHandler) :
    Prop :=
  ∀ params canvas, Generation.Agree R (x scene params canvas) (y scene' params canvas)

/-! ## Standard capabilities -/

namespace Capabilities

variable {c : Capabilities} (h : standard = .ok c) (hR : Calm R)

include h hR

omit hR in
theorem agree_resolvers_of_quiet (hR : Quiet R) :
    Registry.Agree (Resolver.Agree R) c.resolvers c.resolvers := by
  intro tag
  rw [(standard_get? h).1]
  cases hl : Expression.standard.resolvers.lookup tag with
  | none => exact .none
  | some x => exact .some (Expression.standard_agree hR _ (mem_of_lookup_eq_some hl))

theorem agree_resolvers : Registry.Agree (Resolver.Agree R) c.resolvers c.resolvers :=
  agree_resolvers_of_quiet h hR.toQuiet

theorem agree_step_of_ne {tag : String} (ht : tag ≠ "write_to_cache") :
    Option.Rel (StepHandler.Agree R) (c.steps.get? tag) (c.steps.get? tag) := by
  rw [(standard_get? h).2]
  cases hl : Step.standard.steps.lookup tag with
  | none => exact .none
  | some x =>
    rcases Step.standard_agree hR _ (mem_of_lookup_eq_some hl) with hw | hx
    · exact absurd hw ht
    · exact .some hx

omit hR in
theorem get?_calc : c.resolvers.get? "calc" = some Expression.calculation := by
  rw [(standard_get? h).1]
  rfl

omit hR in
theorem get?_cached : c.resolvers.get? "cached" = some Expression.cached := by
  rw [(standard_get? h).1]
  rfl

omit hR in
theorem get?_writeToCache : c.steps.get? "write_to_cache" = some Step.writeToCache := by
  rw [(standard_get? h).2]
  rfl

theorem agree_steps (hw : StepHandler.Agree R Step.writeToCache Step.writeToCache) :
    Registry.Agree (StepHandler.Agree R) c.steps c.steps := by
  intro tag
  by_cases ht : tag = "write_to_cache"
  · rw [ht, get?_writeToCache h]
    exact .some hw
  · exact agree_step_of_ne h hR ht

section Unless

variable {scene scene' : Scene} (hscene : Scene.AgreeUnless F R scene scene')

include hscene

omit hR in
/-- Of the expressions only `calc` depends on what is logged. -/
theorem agreeUnless_resolver_of_ne (hR : Quiet R) {tag : String} (ht : tag ≠ "calc") :
    Option.Rel (Resolver.AgreeUnlessIn F R scene scene') (c.resolvers.get? tag)
      (c.resolvers.get? tag) := by
  rw [(standard_get? h).1]
  cases hl : Expression.standard.resolvers.lookup tag with
  | none => exact .none
  | some x =>
    rcases Expression.standard_agreeUnless hscene hR _ (mem_of_lookup_eq_some hl) with hcalc | hx
    · exact absurd (congrArg Prod.fst hcalc) ht
    · exact .some hx

/-- Of the steps only `write_to_cache` does. -/
theorem agreeUnless_step_of_ne {tag : String} (ht : tag ≠ "write_to_cache") :
    Option.Rel (StepHandler.AgreeUnlessIn F R scene scene') (c.steps.get? tag)
      (c.steps.get? tag) := by
  rw [(standard_get? h).2]
  cases hl : Step.standard.steps.lookup tag with
  | none => exact .none
  | some x =>
    rcases Step.standard_agreeUnless hscene hR _ (mem_of_lookup_eq_some hl) with hwrite | hx
    · exact absurd (congrArg Prod.fst hwrite) ht
    · exact .some hx

variable (hlogs : scene.config.logsAll = scene'.config.logsAll)

include hlogs

omit hR in
/-- Where the same is logged, all expressions go alike. -/
theorem agreeUnless_resolvers (hR : Quiet R) :
    Registry.Agree (Resolver.AgreeUnlessIn F R scene scene') c.resolvers c.resolvers := by
  intro tag
  by_cases ht : tag = "calc"
  · rw [ht, get?_calc h]
    exact .some (Expression.agreeUnless_calculation hscene hR hlogs)
  · exact agreeUnless_resolver_of_ne h hscene hR ht

omit hR in
/-- So do all steps. -/
theorem agreeUnless_steps (hR : Storing R) (hg : KeepsGlobal R) :
    Registry.Agree (StepHandler.AgreeUnlessIn F R scene scene') c.steps c.steps := by
  intro tag
  by_cases ht : tag = "write_to_cache"
  · rw [ht, get?_writeToCache h]
    exact .some (Step.agreeUnless_writeToCache hscene hR hg hlogs)
  · exact agreeUnless_step_of_ne h hR.toCalm hscene ht

end Unless

omit hR in
/-- The steps keep what is known of the draft if binding keys in its cache does. -/
theorem agree_steps_of_draft (P : Draft → Prop)
    (hP : ∀ d key v, P d → P { d with cache := d.cache.insert key v }) :
    Registry.Agree (StepHandler.Agree (Same fun s => P s.draft)) c.steps c.steps :=
  agree_steps h (Same.draft_storing P hP).toCalm
    (Step.agree_writeToCache (Same.draft_storing P hP) (Same.draft_keepsGlobal P))

end Capabilities

/-! ## Resolving -/

namespace Generation

variable {resolvers resolvers' : Registry Resolver}

theorem agreeUnless_unwrap {scene scene' : Scene} (h : Scene.AgreeUnless F R scene scene')
    (hr : Registry.Agree (Resolver.AgreeUnlessIn F R scene scene') resolvers resolvers')
    (chain : Nat) (v : Value) :
    AgreeUnless F R (unwrap resolvers scene chain v) (unwrap resolvers' scene' chain v) := by
  induction chain generalizing v with
  | zero =>
    cases v with
    | mapping params =>
      rw [unwrap_mapping, unwrap_mapping, Config.maxChain_eq_of_unlogged h.config]
      refine (AgreeUnless.ofExcept _).bind fun kind? => ?_
      cases kind? with
      | none => exact .pure _
      | some kind => exact .throw _
    | null | bool | number | string | sequence | image | font => exact .pure _
  | succ chain ih =>
    cases v with
    | mapping params =>
      rw [unwrap_mapping, unwrap_mapping]
      refine (AgreeUnless.ofExcept _).bind fun kind? => ?_
      cases kind? with
      | none => exact .pure _
      | some kind =>
        have hk := hr kind
        dsimp only
        generalize resolvers.get? kind = x, resolvers'.get? kind = y at hk
        cases hk with
        | none => exact .throw _
        | some hk => exact (hk params).bind ih
    | null | bool | number | string | sequence | image | font => exact .pure _

theorem agreeUnless_resolve {setting setting' : Setting}
    (h : Setting.AgreeUnless F R setting setting')
    (hr : ∀ depth, let scene : Scene := ⟨setting, resolve resolvers setting depth⟩
      let scene' : Scene := ⟨setting', resolve resolvers' setting' depth⟩
      Scene.AgreeUnless F R scene scene' →
        Registry.Agree (Resolver.AgreeUnlessIn F R scene scene') resolvers resolvers')
    (depth : Nat) (v : Value) :
    AgreeUnless F R (resolve resolvers setting depth v) (resolve resolvers' setting' depth v) := by
  induction depth generalizing v with
  | zero =>
    rw [resolve, resolve, Config.maxDepth_eq_of_unlogged h.config]
    exact .throw _
  | succ depth ih =>
    rw [resolve_succ, resolve_succ, Config.maxChain_eq_of_unlogged h.config]
    have hscene : Scene.AgreeUnless F R ⟨setting, resolve resolvers setting depth⟩
        ⟨setting', resolve resolvers' setting' depth⟩ := ⟨h, ih⟩
    refine (agreeUnless_unwrap hscene (hr depth hscene) _ v).bind fun v => ?_
    cases v with
    | sequence items => exact (AgreeUnless.mapM ih items).bind fun _ => .pure _
    | mapping fields => exact (AgreeUnless.dictMapM ih fields).bind fun _ => .pure _
    | null | bool | number | string | image | font => exact .pure _

theorem agreeUnless_scene {setting setting' : Setting}
    (h : Setting.AgreeUnless F R setting setting')
    (hr : ∀ depth, let scene : Scene := ⟨setting, resolve resolvers setting depth⟩
      let scene' : Scene := ⟨setting', resolve resolvers' setting' depth⟩
      Scene.AgreeUnless F R scene scene' →
        Registry.Agree (Resolver.AgreeUnlessIn F R scene scene') resolvers resolvers') :
    Scene.AgreeUnless F R (scene resolvers setting) (scene resolvers' setting') := by
  refine ⟨h, fun v => ?_⟩
  have := agreeUnless_resolve h hr setting.config.maxDepth v
  rwa [scene, scene, ← Config.maxDepth_eq_of_unlogged h.config]

theorem agree_resolve (hr : Registry.Agree (Resolver.Agree R) resolvers resolvers')
    {setting setting' : Setting} (h : Setting.Agree R setting setting') (depth : Nat) (v : Value) :
    Agree R (resolve resolvers setting depth v) (resolve resolvers' setting' depth v) := by
  refine (agreeUnless_resolve h.unless (fun depth hscene => ?_) depth v).agree
  have hagree : Scene.Agree R ⟨setting, resolve resolvers setting depth⟩
      ⟨setting', resolve resolvers' setting' depth⟩ := ⟨h, fun v => (hscene.resolve v).agree⟩
  exact hr.mono fun _ _ hxy params => (hxy _ _ hagree params).unless

theorem agree_scene (hr : Registry.Agree (Resolver.Agree R) resolvers resolvers')
    {setting setting' : Setting} (h : Setting.Agree R setting setting') :
    Scene.Agree R (scene resolvers setting) (scene resolvers' setting') := by
  refine ⟨h, fun v => ?_⟩
  have := agree_resolve hr h setting.config.maxDepth v
  rwa [scene, scene, ← h.config]

/-! ## Running steps -/

variable {handlers handlers' : Registry StepHandler} {scene scene' : Scene}

/-- Setting the working canvas keeps the relation, too. -/
structure Running (R : State → State → Prop) : Prop extends Quiet R where
  withWorking : ∀ {s t} (image : Option Image), R s t →
    R { s with draft.working := image } { t with draft.working := image }

/-- So does writing files as well. -/
structure Staging (R : State → State → Prop) : Prop extends Calm R, Running R

/-- What is known of the draft is kept if setting the working canvas keeps it. -/
theorem Same.draft_staging (P : Draft → Prop)
    (h : ∀ d image, P d → P { d with working := image }) :
    Staging (Same fun s => P s.draft) where
  toCalm := Same.calm fun _ _ _ => id
  withWorking := fun image ⟨hst, hp⟩ => ⟨by rw [hst], h _ image hp⟩

/-- A relation that what drawing does to drafts keeps: setting the working canvas, beginning with a
new draft, and going back to the old one. -/
structure Drafting (R : State → State → Prop) : Prop extends Running R where
  newDraft : ∀ {s t}, R s t →
    R (.fresh s.run) (.fresh t.run)
  oldDraft : ∀ {s t s' t'}, R s t → R s' t' →
    R { s with run := s'.run } { t with run := t'.run }

/-- Writing files keeps it as well. -/
structure Steady (R : State → State → Prop) : Prop extends Staging R, Drafting R

instance : Coe (Staging R) (Running R) := ⟨Staging.toRunning⟩

instance : Coe (Steady R) (Drafting R) := ⟨Steady.toDrafting⟩

/-- Being equal is kept by everything. -/
theorem eq_steady : Steady Eq where
  cache := fun h => by rw [h]
  working := fun h => by rw [h]
  files := fun h => by rw [h]
  nextStamp := fun h => by rw [h]
  record := fun _ h => by rw [h]
  withStamp := fun _ h => by rw [h]
  withFiles := fun _ h => by rw [h]
  withWorking := fun _ h => by rw [h]
  newDraft := fun h => by rw [h]
  oldDraft := fun h h' => by rw [h, h']

theorem eq_storing : Storing Eq where
  toCalm := eq_steady.toCalm
  globalCache := fun h => by rw [h]
  withCached := fun _ _ h => by rw [h]

theorem eq_keepsGlobal : KeepsGlobal Eq :=
  fun _ _ h => by rw [h]

section Unless

variable (hF : Fault.KeptInSteps F) (h : Scene.AgreeUnless F R scene scene')

include hF h

theorem agreeUnless_priority (s : PlacedStep) :
    AgreeUnless F R (priority scene s) (priority scene' s) := by
  rw [priority, priority, h.scope]
  cases s.step.get? priorityKey with
  | none => exact .pure _
  | some v => exact (h.resolve v).mapFault (hF _ _ _)

theorem agreeUnless_orderSteps (hR : Quiet R) :
    AgreeUnless F R (orderSteps scene) (orderSteps scene') := by
  rw [orderSteps, orderSteps, h.scope]
  refine (AgreeUnless.mapM (agreeUnless_priority hF h) _).bind fun priorities => ?_
  split
  · exact (hR.log _ _ _).unless.bind fun _ => .pure _
  · exact .pure _

variable (hR : Running R)
  (hs : Registry.Agree (StepHandler.AgreeUnlessIn F R scene scene') handlers handlers')

include hR hs

theorem agreeUnless_runStep (s : PlacedStep) (canvas : Image) :
    AgreeUnless F R (runStep handlers scene s canvas) (runStep handlers' scene' s canvas) := by
  rw [runStep, runStep, h.scope]
  refine ((AgreeUnless.ofExcept _).mapFault (hF _ _ _)).bind fun params => ?_
  have hkind := (h.param params typeKey).bind fun v => .ofExcept (v.readString typeKey)
  refine (hkind.mapFault (hF _ _ _)).bind fun kind => ?_
  refine ((h.flag params conditionKey true).bind fun runs => ?_).mapFault (hF _ _ _)
  cases runs with
  | false => exact .pure _
  | true =>
    have hk := hs kind
    generalize handlers.get? kind = x, handlers'.get? kind = y at hk
    cases hk with
    | none => exact .throw _
    | some hk =>
      have hset : Agree R (modifyDraft fun d => { d with working := some canvas })
          (modifyDraft fun d => { d with working := some canvas }) :=
        related_modify fun _ _ => hR.withWorking _
      exact hset.unless.bind fun _ => (hk params canvas).bind fun _ => .pure _

theorem agreeUnless_runSteps (steps : List PlacedStep) (canvas : Image) :
    AgreeUnless F R (runSteps handlers scene steps canvas)
      (runSteps handlers' scene' steps canvas) := by
  induction steps generalizing canvas with
  | nil => exact .pure _
  | cons s rest ih =>
    rw [runSteps, runSteps, h.scope]
    refine (agreeUnless_runStep hF h hR hs s canvas).bind fun flow? => ?_
    match flow? with
    | none => exact ih canvas
    | some (.go next) => exact ih next
    | some (.stop last) => exact (hR.info _ _).unless.bind fun _ => .pure _
    | some .cancel => exact (hR.info _ _).unless.bind fun _ => .pure _

theorem agreeUnless_drawSteps (size : Size) :
    AgreeUnless F R (drawSteps handlers scene size) (drawSteps handlers' scene' size) := by
  rw [drawSteps, drawSteps, h.scope]
  refine (hR.info _ _).unless.bind fun _ => (hR.newImage _).unless.bind fun canvas => ?_
  refine (agreeUnless_orderSteps hF h hR.toQuiet).bind fun steps => ?_
  refine (agreeUnless_runSteps hF h hR hs steps canvas).bind fun result => ?_
  cases result with
  | none => exact .pure _
  | some canvas => exact (hR.info _ _).unless.bind fun _ => .pure _

end Unless

theorem agree_orderSteps (hR : Quiet R) (h : Scene.Agree R scene scene') :
    Agree R (orderSteps scene) (orderSteps scene') :=
  (agreeUnless_orderSteps Fault.keptInSteps_false h.unless hR).agree

theorem agree_runSteps (hR : Running R)
    (hs : Registry.Agree (StepHandler.Agree R) handlers handlers')
    (h : Scene.Agree R scene scene') (steps : List PlacedStep) (canvas : Image) :
    Agree R (runSteps handlers scene steps canvas) (runSteps handlers' scene' steps canvas) :=
  (agreeUnless_runSteps Fault.keptInSteps_false h.unless hR
    (hs.mono fun _ _ hxy params canvas => (hxy _ _ h params canvas).unless) steps canvas).agree

theorem agree_drawSteps (hR : Running R)
    (hs : Registry.Agree (StepHandler.Agree R) handlers handlers')
    (h : Scene.Agree R scene scene') (size : Size) :
    Agree R (drawSteps handlers scene size) (drawSteps handlers' scene' size) :=
  (agreeUnless_drawSteps Fault.keptInSteps_false h.unless hR
    (hs.mono fun _ _ hxy params canvas => (hxy _ _ h params canvas).unless) size).agree

end Generation

/-! ## Drawing faces -/

/-- What a face is known by while it is being drawn. -/
def Scope.mark (s : Scope) : ℕ × String :=
  (s.face.serial, s.face.displayLabel)

namespace Lineage

variable {lineage lineage' : Lineage}

theorem isDrawing_eq_any (lineage : Lineage) (face : CardFace) :
    lineage.isDrawing face = (lineage.map Scope.mark).any (·.1 == face.serial) := by
  simp [isDrawing, List.any_map, Function.comp_def, Scope.mark]

section Marks

variable (h : lineage.map Scope.mark = lineage'.map Scope.mark)

include h

/-- Which faces are being drawn depends on nothing but their marks. -/
theorem isDrawing_eq_of_marks (face : CardFace) :
    lineage.isDrawing face = lineage'.isDrawing face := by
  rw [isDrawing_eq_any, isDrawing_eq_any, h]

theorem labels_eq_of_marks : lineage.labels = lineage'.labels := by
  have hmap (l : Lineage) : l.labels = ((l.map Scope.mark).map Prod.snd).reverse := by
    simp [labels, Scope.mark]
  rw [hmap, hmap, h]

end Marks

variable (h : lineage.map (·.face) = lineage'.map (·.face))

include h

theorem marks_congr : lineage.map Scope.mark = lineage'.map Scope.mark := by
  have hmap (l : Lineage) : l.map Scope.mark =
      (l.map (·.face)).map fun face => (face.serial, face.displayLabel) := by
    simp [Scope.mark]
  rw [hmap, hmap, h]

/-- Which faces are being drawn does not depend on their compositions. -/
theorem isDrawing_congr (face : CardFace) : lineage.isDrawing face = lineage'.isDrawing face :=
  isDrawing_eq_of_marks (marks_congr h) face

theorem labels_congr : lineage.labels = lineage'.labels :=
  labels_eq_of_marks (marks_congr h)

end Lineage

namespace Press

/-- Presses with one pool and one configuration whose expressions and steps agree. -/
structure Agree (R : State → State → Prop) (press press' : Press) : Prop where
  pool : press.pool = press'.pool
  config : press.config = press'.config
  resolvers : Registry.Agree (Resolver.Agree R) press.capabilities.resolvers
    press'.capabilities.resolvers
  steps : Registry.Agree (StepHandler.Agree R) press.capabilities.steps press'.capabilities.steps

variable {press press' : Press}

/-- With the standard capabilities a press goes alike with itself where binding keys does. -/
theorem agree_of_storing (hc : Capabilities.standard = .ok press.capabilities) (hR : Storing R)
    (hg : KeepsGlobal R) : press.Agree R press :=
  ⟨rfl, rfl, Capabilities.agree_resolvers hc hR.toCalm,
    Capabilities.agree_steps hc hR.toCalm (Step.agree_writeToCache hR hg)⟩

theorem agreeUnless_request
    (hlookup : ∀ label, press.pool.lookup label = none ∧ F (.unknownTemplate label) ∨
      press.pool.lookup label = press'.pool.lookup label)
    {lineage lineage' : Lineage} (hl : lineage.map Scope.mark = lineage'.map Scope.mark)
    {draw draw' : Lineage → CardFace → Generation (Option Image)}
    (h : ∀ label template, press.pool.lookup label = some template →
      lineage.isDrawing template = false →
      Generation.AgreeUnless F R (draw lineage template) (draw' lineage' template))
    (label : String) :
    Generation.AgreeUnless F R (press.request draw lineage label)
      (press'.request draw' lineage' label) := by
  rcases hlookup label with ⟨hnone, hfault⟩ | hsame
  · rw [request, hnone]
    exact .excused hfault _
  · rw [request, request, ← hsame]
    cases ht : press.pool.lookup label with
    | none => exact .throw _
    | some template =>
      dsimp only
      rw [← Lineage.isDrawing_eq_of_marks hl, ← Lineage.labels_eq_of_marks hl]
      split
      · exact .throw _
      · next hd => exact h label template ht (Bool.eq_false_iff.2 hd)

theorem agree_request (hpool : press.pool = press'.pool) {lineage lineage' : Lineage}
    (hl : lineage.map Scope.mark = lineage'.map Scope.mark)
    {draw draw' : Lineage → CardFace → Generation (Option Image)}
    (h : ∀ label template, press.pool.lookup label = some template →
      lineage.isDrawing template = false →
      Generation.Agree R (draw lineage template) (draw' lineage' template)) (label : String) :
    Generation.Agree R (press.request draw lineage label)
      (press'.request draw' lineage' label) :=
  (agreeUnless_request (fun _ => .inr (by rw [hpool])) hl
    (fun label template ht hd => (h label template ht hd).unless) label).agree

/-- A face is drawn in a draft of its own. -/
theorem agree_drawFace_of_inNewDraft
    (h : ∀ x : Generation (Option Image), Generation.Agree R (inNewDraft x) (inNewDraft x))
    (press : Press) (parents : Lineage) (face : CardFace) :
    Generation.Agree R (press.drawFace parents face) (press.drawFace parents face) := by
  rw [drawFace_eq, drawOnce]
  refine (Agree.ofExcept _).bind fun composition => ?_
  cases composition.size with
  | none => exact Agree.pure _
  | some size => exact h _

/-- A face is drawn alike, unless that is excused, if its composition is found alike and its steps
are drawn so. -/
theorem agreeUnless_drawFace_of_steps (hR : Drafting R) {parents parents' : Lineage}
    {face : CardFace}
    (hcompose : (∃ fault, press.pool.compose face = .error fault ∧ F fault) ∨
      press.pool.compose face = press'.pool.compose face)
    (h : ∀ composition : Composition,
      let lineage : Lineage := ⟨face, composition⟩ :: parents
      let lineage' : Lineage := ⟨face, composition⟩ :: parents'
      let scene := Generation.scene press.capabilities.resolvers
        ⟨press.config, ⟨face, composition⟩, parents, press.request press.drawFace lineage⟩
      let scene' := Generation.scene press'.capabilities.resolvers
        ⟨press'.config, ⟨face, composition⟩, parents', press'.request press'.drawFace lineage'⟩
      ∀ size, Generation.AgreeUnless F R (drawSteps press.capabilities.steps scene size)
        (drawSteps press'.capabilities.steps scene' size)) :
    Generation.AgreeUnless F R (press.drawFace parents face) (press'.drawFace parents' face) := by
  rw [drawFace_eq, drawFace_eq, drawOnce, drawOnce]
  rcases hcompose with ⟨fault, hfault, hexcused⟩ | hsame
  · rw [hfault]
    exact .excused hexcused _
  · rw [← hsame]
    refine (AgreeUnless.ofExcept _).bind fun composition => ?_
    cases composition.size with
    | none => exact .pure _
    | some size => exact (h composition size).inNewDraft hR.newDraft hR.oldDraft

/-- Drawing goes alike for lineages of faces with the same marks whose innermost ones show the same,
unless that is excused, if the steps of every face do where having templates drawn does. Templates
may be missing for the first press where the fault of that is excused. -/
theorem agreeUnless_drawFace (hR : Drafting R)
    (hlookup : ∀ label, press.pool.lookup label = none ∧ F (.unknownTemplate label) ∨
      press.pool.lookup label = press'.pool.lookup label)
    (hcompose : ∀ face, (∃ fault, press.pool.compose face = .error fault ∧ F fault) ∨
      press.pool.compose face = press'.pool.compose face)
    (hconfig : press.config.unlogged = press'.config.unlogged)
    (hdraw : ∀ setting setting', setting.config = press.config → setting'.config = press'.config →
      Setting.AgreeUnless F R setting setting' → ∀ size, Generation.AgreeUnless F R
        (drawSteps press.capabilities.steps (scene press.capabilities.resolvers setting) size)
        (drawSteps press'.capabilities.steps (scene press'.capabilities.resolvers setting') size))
    {parents parents' : Lineage} (hmarks : parents.map Scope.mark = parents'.map Scope.mark)
    (hparent : parents.head?.map Scope.snapshot = parents'.head?.map Scope.snapshot)
    (face : CardFace) :
    Generation.AgreeUnless F R (press.drawFace parents face) (press'.drawFace parents' face) := by
  induction hn : (press.idle (active parents face)).length using Nat.strong_induction_on
    generalizing parents parents' face with
  | _ n ih =>
    -- Every face drawn within this one takes a template from the idle ones.
    refine agreeUnless_drawFace_of_steps hR (hcompose face) fun composition => ?_
    have hlineage : (⟨face, composition⟩ :: parents : Lineage).map Scope.mark =
        (⟨face, composition⟩ :: parents' : Lineage).map Scope.mark := by
      simp [hmarks]
    refine hdraw _ _ rfl rfl ⟨hconfig, rfl, hparent, agreeUnless_request hlookup hlineage ?_⟩
    intro label template ht hd
    have hlt : (press.idle (template :: active parents face)).length < n :=
      hn ▸ length_idle_cons ht ((any_active _ _ _ composition).trans hd)
    exact ih _ hlt hlineage rfl template rfl

/-- Drawing goes alike with presses that do, for lineages of faces with the same marks whose
innermost ones show the same. -/
theorem agree_drawFace (hR : Drafting R) (h : press.Agree R press') {parents parents' : Lineage}
    (hmarks : parents.map Scope.mark = parents'.map Scope.mark)
    (hparent : parents.head?.map Scope.snapshot = parents'.head?.map Scope.snapshot)
    (face : CardFace) :
    Generation.Agree R (press.drawFace parents face) (press'.drawFace parents' face) := by
  refine (agreeUnless_drawFace hR (fun _ => .inr (by rw [h.pool])) (fun _ => .inr (by rw [h.pool]))
    (by rw [h.config]) ?_ hmarks hparent face).agree
  intro setting setting' hconfig hconfig' hsetting size
  have hagree : Setting.Agree R setting setting' :=
    ⟨by rw [hconfig, hconfig', h.config], hsetting.scope, hsetting.parent,
      fun label => (hsetting.draw label).agree⟩
  exact (agree_drawSteps hR.toRunning h.steps (agree_scene h.resolvers hagree) size).unless

/-- What resolving keeps, and every step where resolving does, is kept by drawing. -/
theorem agree_drawFace_self (hR : Drafting R)
    (hr : Registry.Agree (Resolver.Agree R) press.capabilities.resolvers
      press.capabilities.resolvers)
    (hs : ∀ scene, Scene.Agree R scene scene → Registry.Agree (StepHandler.AgreeIn R scene scene)
      press.capabilities.steps press.capabilities.steps)
    (parents : Lineage) (face : CardFace) :
    Generation.Agree R (press.drawFace parents face) (press.drawFace parents face) := by
  induction hn : (press.idle (active parents face)).length using Nat.strong_induction_on
    generalizing parents face with
  | _ n ih =>
    refine (agreeUnless_drawFace_of_steps hR (.inr rfl) fun composition => ?_).agree
    intro lineage _ scene _ size
    have hscene : Scene.Agree R scene scene := by
      refine agree_scene hr ⟨rfl, rfl, rfl, ?_⟩
      refine agree_request rfl rfl fun label template ht hd => ?_
      have hlt : (press.idle (template :: active parents face)).length < n :=
        hn ▸ length_idle_cons ht ((any_active _ _ _ composition).trans hd)
      exact ih _ hlt lineage template rfl
    exact agreeUnless_drawSteps Fault.keptInSteps_false hscene.unless hR.toRunning
      ((hs scene hscene).mono fun _ _ hxy params canvas => (hxy params canvas).unless) size

end Press

end CardPress
