import CardPress.Proofs.Generation.Cells
import CardPress.Proofs.Generation.GlobalCache
import CardPress.Proofs.Step.CacheWriting

/-!
# What is in a face's cache

A face finds in its cache what the global cache held when its drawing began, and over that what its
own steps wrote since, in order. This can be told without the state: an overlay goes along from step
to step and grows by each entry that is written, and both looking up a stored value and checking
whether a key exists look into the overlay instead of the cache. It makes no difference, whatever
other faces that are drawn meanwhile do to the global cache.

## Main definitions

* `Overlay` — the global cache as it was, and the own writes.
* `Generation.Tells` — going alike while an overlay tells the cache.
* `Press.drawOverlaid` — drawing a face whose cache is told by an overlay.

## Main result

* `Press.resolve_frame` — resolving changes no draft, and the run only through templates that are
  drawn; so a face's cache is its overlay.
-/

namespace CardPress

open Generation

/-- What a face has in its cache, told by itself. -/
structure Overlay where
  /-- The global cache as it was when the drawing of the face began. -/
  base : Mapping
  /-- What the face wrote since. -/
  writes : List (String × Value)

namespace Overlay

def cache (o : Overlay) : Mapping :=
  o.writes.foldl (fun c (key, v) => c.insert key v) o.base

def write (o : Overlay) (key : String) (v : Value) : Overlay :=
  { o with writes := o.writes ++ [(key, v)] }

@[simp] theorem cache_write (o : Overlay) (key : String) (v : Value) :
    (o.write key v).cache = o.cache.insert key v := by
  simp [cache, write]

end Overlay

/-- Something done by a face whose overlay goes along. -/
abbrev Overlaid := StateT Overlay Generation

/-! ## Drawing with an overlay -/

/-- The expression for stored values, when it is told what is stored. -/
def Expression.cachedIn (cache : Mapping) : Resolver := fun scene params => do
  let key ← cacheKey (← scene.param params "key")
  match cache.get? key, params.get? "default" with
  | some v, _ => return v
  | none, some default => return default
  | none, none => throw (.keyMissing key false)

/-- Expressions that look for stored values in a given cache, whatever the state holds. -/
def Registry.lookingInto (resolvers : Registry Resolver) (cache : Mapping) : Registry Resolver :=
  { resolvers with entries := resolvers.entries.insert "cached" (Expression.cachedIn cache) }

namespace Step

/-- Whether every cache addressed admits a key, when it is told what the face's own one holds. -/
def CacheWriting.admitsIn (w : CacheWriting) (cache : Mapping) (key : String) :
    Generation Bool := do
  if ← w.mode.admits key (cache.contains key) false then
    if w.isGlobal then
      if ← w.mode.admits key ((← get).run.globalCache.contains key) true then return true
      w.skip key " globally"
      return false
    return true
  w.skip key ""
  return false

variable (looking : Mapping → Scene)

/-- Write an entry if its key is admitted, and note that it was written. -/
def CacheWriting.writeEntryOver (w : CacheWriting) (key : String) (v : Value) :
    Overlaid Unit := do
  let cache := (← get).cache
  if ← w.admitsIn cache key then
    let v ← if w.isLazy then pure v else (looking cache).resolve v
    w.bind key v
    modify (·.write key v)

def writeToCacheOver (params : Mapping) (canvas : Image) : Overlaid StepFlow := do
  let scene := looking (← get).cache
  let w ← CacheWriting.read scene params
  forM (← cacheEntries scene params) fun (key, v) => w.writeEntryOver looking key v
  return .go canvas

end Step

namespace Generation

variable (handlers : Registry StepHandler) (looking : Mapping → Scene)

/-- Faults say that they come from a step. -/
def inStepOver {α : Type} (face : CardFace) (index : Nat) (kind : String) (y : Overlaid α) :
    Overlaid α := fun o =>
  inStep face index kind (y.run o)

/-- Run a step whose expressions look into the overlay. Only a step that writes to caches adds to
it. -/
def runStepOver (s : PlacedStep) (canvas : Image) : Overlaid (Option StepFlow) := do
  let scene := looking (← get).cache
  let face := scene.scope.face
  let params ← inStep face s.index "step" (s.step.readMapping "step")
  let kind ← inStep face s.index "step" do
    (← scene.param params typeKey).readString typeKey
  inStepOver face s.index kind do
    if ← scene.flag params conditionKey true then
      match handlers.get? kind with
      | none => throw (.unknownStep kind)
      | some handler =>
        modifyDraft fun d => { d with working := some canvas }
        if kind = "write_to_cache" then
          return some (← Step.writeToCacheOver looking params canvas)
        else return some (← handler scene params canvas)
    else return none

def runStepsOver : List PlacedStep → Image → Overlaid (Option Image)
  | [], canvas => return some canvas
  | s :: rest, canvas => do
    match ← runStepOver handlers looking s canvas with
    | none => runStepsOver rest canvas
    | some (.go next) => runStepsOver rest next
    | some (.stop last) =>
      info "Step requested stop, finishing early" [("index", toString s.index)]
      return some last
    | some .cancel =>
      info "Generation cancelled" [
        ("label", (looking (← get).cache).scope.face.displayLabel), ("index", toString s.index)]
      return none

/-- Draw a face of some size from blank. -/
def drawStepsOver (size : Size) : Overlaid (Option Image) := do
  let scene := looking (← get).cache
  let label := scene.scope.face.displayLabel
  info "Generating card face" [
    ("label", label), ("width", toString size.width), ("height", toString size.height)]
  let canvas ← newImage (.blank size.width size.height)
  match ← runStepsOver handlers looking (← orderSteps scene) canvas with
  | none => return none
  | some canvas =>
    info "Card face generated" [("label", label)]
    return some canvas

end Generation

namespace Press

/-- What the handlers of a face's steps work in when they are told what is stored. -/
def sceneLooking (press : Press) (scope : Scope) (parents : Lineage) (cache : Mapping) : Scene :=
  Generation.scene (press.capabilities.resolvers.lookingInto cache) (press.setting scope parents)

/-- Draw a face whose cache is told by an overlay, which begins with what the global cache holds. -/
def drawOverlaid (press : Press) (parents : Lineage) (face : CardFace) :
    Generation (Option Image) := do
  let composition ← press.pool.compose face
  match composition.size with
  | none => return none
  | some size =>
    let base := (← get).run.globalCache
    let scene := press.sceneLooking ⟨face, composition⟩ parents
    return (← Generation.inNewDraft
      (Generation.drawStepsOver press.capabilities.steps scene size ⟨base, []⟩)).1

end Press

/-! ## What is told is what the state holds -/

namespace Generation

variable {α β : Type}

/-- One state, whose cache is told. -/
abbrev Stores (cache : Mapping) : State → State → Prop :=
  Same fun s => s.draft.cache = cache

theorem stores_staging (cache : Mapping) : Staging (Stores cache) :=
  Same.draft_staging (·.cache = cache) fun _ _ => id

/-- What has no part for the overlay leaves it as it is. -/
theorem run_lift_bind (y : Generation α) (g : α → Overlaid β) (o : Overlay) :
    (liftM y >>= g).run o = y >>= fun a => (g a).run o := by
  simp only [StateT.run_bind, StateT.run_monadLift, monadLift_self, bind_assoc, pure_bind]

/-- One result in one state whose cache the overlay tells, or one fault in one state. -/
inductive Told : EStateM.Result Fault State α → EStateM.Result Fault State (α × Overlay) →
    Prop where
  | ok {a : α} {o : Overlay} {s : State} (h : s.draft.cache = o.cache) :
    Told (.ok a s) (.ok (a, o) s)
  | error {fault : Fault} {s : State} : Told (.error fault s) (.error fault s)

/-- From states whose cache the overlay tells, both end alike. -/
def Tells (o : Overlay) (x : Generation α) (y : Overlaid α) : Prop :=
  ∀ s, s.draft.cache = o.cache → Told (x s) (y.run o s)

namespace Tells

variable {o : Overlay}

theorem pure (a : α) : Tells o (Pure.pure a) (Pure.pure a) :=
  fun _ hs => .ok hs

theorem bind {x : Generation α} {y : Overlaid α} {f : α → Generation β} {g : α → Overlaid β}
    (hx : Tells o x y) (hf : ∀ a o, Tells o (f a) (g a)) : Tells o (x >>= f) (y >>= g) := by
  intro s hs
  rw [StateT.run_bind]
  show Told (EStateM.bind x f s) (EStateM.bind (y.run o) (fun p => (g p.1).run p.2) s)
  have hr := hx s hs
  simp only [EStateM.bind]
  generalize x s = r, y.run o s = r' at hr ⊢
  cases hr with
  | ok h => exact hf _ _ _ h
  | error => exact .error

/-- What is done with the overlay. -/
theorem get_bind {x : Generation α} {g : Overlay → Overlaid α} (h : Tells o x (g o)) :
    Tells o x (get >>= g) :=
  h

/-- What goes alike without a part for the overlay. -/
theorem lift_bind {x y : Generation α} {f : α → Generation β} {g : α → Overlaid β}
    (hx : Agree (Stores o.cache) x y) (hf : ∀ a, Tells o (f a) (g a)) :
    Tells o (x >>= f) (liftM y >>= g) := by
  intro s hs
  rw [run_lift_bind]
  show Told (EStateM.bind x f s) (EStateM.bind y (fun a => (g a).run o) s)
  have hr := hx s s ⟨rfl, hs⟩
  simp only [EStateM.bind]
  generalize x s = r, y s = r' at hr ⊢
  cases hr with
  | ok h =>
    obtain ⟨rfl, h⟩ := h
    exact hf _ _ h
  | error h =>
    obtain ⟨rfl, -⟩ := h
    exact .error

theorem inStep {x : Generation α} {y : Overlaid α} (h : Tells o x y) (face : CardFace)
    (index : Nat) (kind : String) :
    Tells o (Generation.inStep face index kind x) (inStepOver face index kind y) := by
  intro s hs
  show Told (EStateM.adaptExcept _ x s) (EStateM.adaptExcept _ (y.run o) s)
  have hr := h s hs
  simp only [EStateM.adaptExcept]
  generalize x s = r, y.run o s = r' at hr ⊢
  cases hr with
  | ok h => exact .ok h
  | error => exact .error

end Tells

/-- A new draft is told by the global cache and no writes. -/
theorem inNewDraft_eq_of_tells {x : Generation α} {y : Overlaid α}
    (h : ∀ base, Tells ⟨base, []⟩ x y) :
    inNewDraft x = (do
      let base := (← get).run.globalCache
      return (← inNewDraft (y.run ⟨base, []⟩)).1) := by
  funext s
  rw [get_bind_apply]
  show _ = EStateM.bind (inNewDraft (y.run ⟨s.run.globalCache, []⟩)) _ s
  have hr := h s.run.globalCache (.fresh s.run) rfl
  simp only [EStateM.bind, inNewDraft]
  generalize x _ = r, y.run _ _ = r' at hr ⊢
  cases hr with
  | ok => rfl
  | error => rfl

/-- Looking into what is told is looking into the cache. -/
theorem agree_lookingInto {resolvers : Registry Resolver} {cache : Mapping}
    (h : Registry.Agree (Resolver.Agree (Stores cache)) resolvers resolvers)
    (hc : resolvers.get? "cached" = some Expression.cached) :
    Registry.Agree (Resolver.Agree (Stores cache)) resolvers (resolvers.lookingInto cache) := by
  intro tag
  have hget : (resolvers.lookingInto cache).get? tag =
      if tag = "cached" then some (Expression.cachedIn cache) else resolvers.get? tag :=
    Dict.get?_insert _ _ _ _
  by_cases ht : tag = "cached"
  · rw [hget, if_pos ht, ht, hc]
    refine .some fun scene scene' h params => ?_
    refine (h.param params "key").bind fun v => (Agree.ofExcept _).bind fun key => ?_
    rintro s t ⟨rfl, hs⟩
    rw [get_bind_apply, hs]
    cases cache.get? key with
    | some v => exact .ok ⟨rfl, hs⟩
    | none =>
      cases params.get? "default" with
      | some default => exact .ok ⟨rfl, hs⟩
      | none => exact .error ⟨rfl, hs⟩
  · rw [hget, if_neg ht]
    exact h tag

end Generation

namespace Step

variable {scene : Scene} {looking : Mapping → Scene}

theorem CacheWriting.agree_admitsIn (w : CacheWriting) (cache : Mapping) (key : String) :
    Agree (Stores cache) (w.admits key) (w.admitsIn cache key) := by
  refine agree_same_of_eq (agree_admits (stores_staging cache).toCalm (fun h => by rw [h.1]) w key)
    fun s hs => ?_
  rw [admits, get_bind_apply, hs, admitsIn]

variable (hscene : ∀ cache, Scene.Agree (Stores cache) scene (looking cache))

include hscene

theorem tells_writeEntry (w : CacheWriting) (key : String) (v : Value) (o : Overlay) :
    Tells o (w.writeEntry scene key v) (w.writeEntryOver looking key v) := by
  have hbind (v : Value) : Tells o (w.bind key v) (do w.bind key v; modify (·.write key v)) := by
    intro s hs
    obtain ⟨t, ht, hcaches⟩ := w.bind_caches key v s
    rw [run_lift_bind, bind_of_ok _ ht, ht]
    have hown : t.caches.own = (o.write key v).cache := by
      rw [hcaches, Overlay.cache_write, ← hs]
      rfl
    exact .ok hown
  refine Tells.get_bind (Tells.lift_bind (w.agree_admitsIn o.cache key) fun admitted => ?_)
  cases admitted with
  | false => exact Tells.pure _
  | true =>
    rw [if_pos rfl, if_pos rfl]
    cases w.isLazy with
    | true => exact hbind v
    | false => exact Tells.lift_bind ((hscene _).resolve v) hbind

theorem tells_writeToCache (params : Mapping) (canvas : Image) (o : Overlay) :
    Tells o (writeToCache scene params canvas) (writeToCacheOver looking params canvas) := by
  rw [writeToCache_eq]
  refine Tells.get_bind (Tells.lift_bind (agree_read (hscene _) params) fun w => ?_)
  refine Tells.lift_bind (agree_cacheEntries (hscene _) params) fun entries => ?_
  have hentries (o : Overlay) : Tells o (forM entries fun (key, v) => w.writeEntry scene key v)
      (forM entries fun (key, v) => w.writeEntryOver looking key v) := by
    induction entries generalizing o with
    | nil => exact Tells.pure _
    | cons e rest ih =>
      rw [List.forM_cons, List.forM_cons]
      exact (tells_writeEntry hscene w e.1 e.2 o).bind fun _ => ih
  exact (hentries o).bind fun _ _ => Tells.pure _

end Step

namespace Generation

variable {handlers : Registry StepHandler} {scene : Scene} {looking : Mapping → Scene}
  (hscene : ∀ cache, Scene.Agree (Stores cache) scene (looking cache))
  (hwrite : handlers.get? "write_to_cache" = some Step.writeToCache)
  (hsteps : ∀ cache tag, tag ≠ "write_to_cache" →
    Option.Rel (StepHandler.Agree (Stores cache)) (handlers.get? tag) (handlers.get? tag))

include hscene hwrite hsteps

theorem tells_runStep (s : PlacedStep) (canvas : Image) (o : Overlay) :
    Tells o (runStep handlers scene s canvas) (runStepOver handlers looking s canvas) := by
  have h := hscene o.cache
  rw [runStep, runStepOver, h.scope]
  refine Tells.get_bind (Tells.lift_bind ((Agree.ofExcept _).mapFault _) fun params => ?_)
  refine Tells.lift_bind (((h.param params typeKey).bind fun v => Agree.ofExcept _).mapFault _)
    fun kind => ?_
  refine Tells.inStep (Tells.lift_bind (h.flag params conditionKey true) fun runs => ?_) _ _ _
  cases runs with
  | false => exact Tells.pure _
  | true =>
    have hset : Agree (Stores o.cache) (modifyDraft fun d => { d with working := some canvas })
        (modifyDraft fun d => { d with working := some canvas }) :=
      related_modify fun _ _ => (stores_staging o.cache).withWorking _
    -- One kind of step goes on with an overlay that may have grown, the others with the same one.
    by_cases hkind : kind = "write_to_cache"
    · rw [hkind, hwrite]
      refine Tells.lift_bind hset fun _ => ?_
      exact (Step.tells_writeToCache hscene params canvas o).bind fun _ _ => Tells.pure _
    · have hk := hsteps o.cache kind hkind
      cases hget : handlers.get? kind with
      | none => exact fun _ _ => .error
      | some handler =>
        rw [hget] at hk
        cases hk with
        | some hk =>
          refine Tells.lift_bind hset fun _ => ?_
          rw [if_neg hkind]
          exact Tells.lift_bind (hk _ _ h params canvas) fun _ => Tells.pure _

theorem tells_runSteps (steps : List PlacedStep) (canvas : Image) (o : Overlay) :
    Tells o (runSteps handlers scene steps canvas)
      (runStepsOver handlers looking steps canvas) := by
  induction steps generalizing canvas o with
  | nil => exact Tells.pure _
  | cons s rest ih =>
    rw [runSteps, runStepsOver]
    refine (tells_runStep hscene hwrite hsteps s canvas o).bind fun flow? o => ?_
    have hR := (stores_staging o.cache).toCalm
    cases flow? with
    | none => exact ih canvas o
    | some flow =>
      cases flow with
      | go next => exact ih next o
      | stop last => exact Tells.lift_bind (hR.info _ _) fun _ => Tells.pure _
      | cancel =>
        rw [(hscene o.cache).scope]
        exact Tells.get_bind (Tells.lift_bind (hR.info _ _) fun _ => Tells.pure _)

theorem tells_drawSteps (size : Size) (o : Overlay) :
    Tells o (drawSteps handlers scene size) (drawStepsOver handlers looking size) := by
  have hR := (stores_staging o.cache).toCalm
  have h := hscene o.cache
  rw [drawSteps, drawStepsOver, h.scope]
  refine Tells.get_bind (Tells.lift_bind (hR.info _ _) fun _ => ?_)
  refine Tells.lift_bind (hR.newImage _) fun canvas => ?_
  refine Tells.lift_bind (agree_orderSteps hR h) fun steps => ?_
  refine (tells_runSteps hscene hwrite hsteps steps canvas o).bind fun result o => ?_
  cases result with
  | none => exact Tells.pure _
  | some canvas =>
    exact Tells.lift_bind ((stores_staging o.cache).info _ _) fun _ => Tells.pure _

end Generation

namespace Press

variable {press : Press}

/-- Scenes that look into the cache and into what is told go alike while that is one thing. -/
theorem agree_sceneLooking (hc : Capabilities.standard = .ok press.capabilities) (scope : Scope)
    (parents : Lineage) (cache : Mapping) :
    Scene.Agree (Stores cache) (press.sceneIn scope parents)
      (press.sceneLooking scope parents cache) := by
  have hcached : press.capabilities.resolvers.get? "cached" = some Expression.cached := by
    rw [(Capabilities.standard_get? hc).1]
    rfl
  have hR := (stores_staging cache).toCalm
  exact agree_scene (agree_lookingInto (Capabilities.agree_resolvers hc hR) hcached)
    ⟨rfl, rfl, rfl, agree_draw (·.cache = cache) scope parents⟩

/-- A face drawn with its overlay is the same as without. -/
theorem drawFace_eq_drawOverlaid (hc : Capabilities.standard = .ok press.capabilities)
    (parents : Lineage) (face : CardFace) :
    press.drawFace parents face = press.drawOverlaid parents face := by
  rw [drawFace_eq, drawOnce, drawOverlaid]
  refine bind_congr fun composition => ?_
  cases composition.size with
  | none => rfl
  | some size =>
    refine inNewDraft_eq_of_tells fun base => ?_
    exact tells_drawSteps (agree_sceneLooking hc ⟨face, composition⟩ parents)
      (Capabilities.get?_writeToCache hc)
      (fun _ _ ht => Capabilities.agree_step_of_ne hc (stores_staging _).toCalm ht) size _

/-- Resolving, at any depth and be it up to a fault, leaves the draft of the face as it is, and so
does every template drawn for whatever face. The global cache and the files change by such templates
alone: what these keep of them is kept. So a face's cache is its overlay from step to step, and no
face is drawn in another way when it looks into the overlay instead. Nor is one when the depth of
resolving is counted in its draft and the drafts of the faces around lie in the state while
templates are drawn: then, too, resolving and every template leave the draft, with its counter, and
the drafts around as they are, and a value is resolved with the levels that the counter leaves. -/
theorem resolve_frame (press : Press) (hc : Capabilities.standard = .ok press.capabilities)
    (scope : Scope) (parents : Lineage) (depth : Nat) (v : Value) (s : State) :
    let setting := press.setting scope parents
    let t := stateAfter (Generation.resolve press.capabilities.resolvers setting depth v) s
    t.draft = s.draft ∧
    (∀ outer lineage label u,
      (stateAfter ((press.setting outer lineage).draw label) u).draft = u.draft) ∧
    (∀ P : Mapping → FileStore → Prop,
      (∀ label u, P u.run.globalCache u.run.files →
        P (stateAfter (setting.draw label) u).run.globalCache
          (stateAfter (setting.draw label) u).run.files) →
      P s.run.globalCache s.run.files → P t.run.globalCache t.run.files) ∧
    (∀ steps canvas o u, u.draft.cache = o.cache →
      Told (runSteps press.capabilities.steps (press.sceneIn scope parents) steps canvas u)
        ((runStepsOver press.capabilities.steps (press.sceneLooking scope parents) steps
          canvas).run o u)) ∧
    (∀ face, press.drawFace parents face = press.drawOverlaid parents face) ∧
    ∀ beyond,
      let inCells := resolveInCells beyond press.capabilities.resolvers
        (press.settingInCells beyond scope parents) press.config.maxDepth v
      press.drawInCells beyond = press.drawFace ∧
      (∀ outer lineage label u,
        let u' := stateAfter ((press.settingInCells beyond outer lineage).draw label) u
        u'.draft = u.draft ∧ u'.around = u.around) ∧
      ∀ u, inCells u = Generation.resolve press.capabilities.resolvers setting
          (press.config.maxDepth - u.draft.depth) v u ∧
        (stateAfter inCells u).draft = u.draft ∧ (stateAfter inCells u).around = u.around := by
  intro setting t
  refine ⟨resolve_draft hc scope parents depth v s, draw_draft, fun P hP hs => ?_,
    fun steps canvas o u hu => ?_, drawFace_eq_drawOverlaid hc parents, fun beyond => ?_⟩
  · refine Capabilities.resolve_keeps (P := fun u => P u.run.globalCache u.run.files) hc ?_ hP depth
      v hs
    intro u run hcache hfiles hu
    rw [hcache, hfiles]
    exact hu
  · exact tells_runSteps (agree_sceneLooking hc scope parents) (Capabilities.get?_writeToCache hc)
      (fun _ _ ht => Capabilities.agree_step_of_ne hc (stores_staging _).toCalm ht)
      steps canvas o u hu
  · intro inCells
    refine ⟨drawInCells_eq hc, fun outer lineage label u => ?_, fun u => ?_⟩
    · obtain ⟨run, hrun⟩ := draw_run outer lineage label u
      rw [settingInCells, drawInCells_eq hc]
      exact hrun ▸ ⟨rfl, rfl⟩
    · have heq : inCells u = _ := resolveInCells_apply hc scope parents v u
      obtain ⟨run, hrun⟩ := resolve_run hc scope parents (press.config.maxDepth - u.draft.depth) v u
      have hafter : stateAfter inCells u = { u with run := run } := by
        rw [stateAfter, heq]
        exact hrun
      exact ⟨heq, hafter ▸ ⟨rfl, rfl⟩⟩

/-- A template and what it binds. -/
def drawnThenLooked : Value :=
  .sequence [
    .mapping <| Dict.ofList [
      (Value.deferredKey, .string "image_from_template"), ("label", .string "early")],
    .mapping <| Dict.ofList [(Value.deferredKey, .string "cached"), ("key", .string "k")]]

theorem resolve_frame_overtaken :
    let setting := overtaken.setting ⟨late, ⟨[], [], some ⟨1, 1⟩⟩⟩ []
    let resolving := Generation.resolve overtaken.capabilities.resolvers setting 3 drawnThenLooked
    let inCells := resolveInCells (fun _ _ => return .null) overtaken.capabilities.resolvers
      (overtaken.settingInCells (fun _ _ => return .null) ⟨late, ⟨[], [], some ⟨1, 1⟩⟩⟩ [])
      overtaken.config.maxDepth drawnThenLooked
    let s : State := ⟨.start .empty ∅, ⟨∅, none, 125⟩, [⟨∅, none, 7⟩]⟩
    Capabilities.standard = .ok overtaken.capabilities ∧
      (stateAfter resolving s).draft = s.draft ∧
      outcome resolving s = .error (.keyMissing "k" false) ∧
      (stateAfter resolving s).run.globalCache.contains "k" = true ∧
      inCells s = resolving s ∧ (stateAfter inCells s).draft = s.draft ∧
      (stateAfter inCells s).around = s.around := by
  obtain ⟨hdraft, -, -, -, -, hcells⟩ := resolve_frame overtaken Capabilities.standard_eq_table
    ⟨late, ⟨[], [], some ⟨1, 1⟩⟩⟩ [] 3 drawnThenLooked
    ⟨.start .empty ∅, ⟨∅, none, 125⟩, [⟨∅, none, 7⟩]⟩
  obtain ⟨heq, hcells⟩ := (hcells fun _ _ => return .null).2.2
    ⟨.start .empty ∅, ⟨∅, none, 125⟩, [⟨∅, none, 7⟩]⟩
  have hmax : overtaken.config.maxDepth = 128 := rfl
  rw [hmax] at heq
  exact ⟨Capabilities.standard_eq_table, hdraft, by cbv, by cbv, heq, hcells⟩

end Press

end CardPress
