import CardPress.Proofs.Generation.CacheChains
import CardPress.Proofs.Generation.EarlyEnd

/-!
# Values that are stored resolved

A step that does not store values as they stand resolves them first. There is no expression left in
what it stores, so an expression that looks for the key gives just that, and goes on doing so until
the same face binds the key again. Nothing else touches its cache: what is bound globally is copied
only into new ones, and templates have caches of their own.

To say this of what is left of a drawing, it is compared with one in which the key gives the value
whatever is stored. Both are made to end with an alarm where the key is about to be bound again, so
that they are compared up to there.

## Main definitions

* `Expression.cachedAs` — one key gives one value, whatever is stored.
* `Press.stepsUntil` — the steps, but with an alarm in place of binding a key.
* `Generation.goOn` — what is left of a drawing after an entry has been written.
* `Generation.StartsWriting` — a drawing has come to a step that is about to write entries.

## Main results

* `Generation.drawSteps_of_startsWriting` — this is what is left where a drawing has come to an
  entry.
* `Press.agree_goOn` — looking for the key in the cache makes no difference.
* `Press.goOn_until` — nor does the alarm, unless it is raised.
* `Press.outcome_resolveFrom_cached` — what looking for the key comes to, by what is left of the two
  budgets.
* `Press.writeEntry_freezes` — all of it, after a value was stored resolved.
-/

namespace CardPress

open Generation Step

namespace Expression

/-- What is stored under a key, else the default. -/
def stored (params : Mapping) (key : String) : Generation Value := do
  match (← get).draft.cache.get? key, params.get? "default" with
  | some v, _ => return v
  | none, some default => return default
  | none, none => throw (.keyMissing key false)

theorem cached_eq_stored (scene : Scene) (params : Mapping) :
    cached scene params = soughtKey scene params >>= stored params :=
  cached_eq scene params

/-- The expression for stored values if one key gives one value, whatever is stored. -/
def cachedAs (key : String) (x : Value) : Resolver := fun scene params => do
  let sought ← soughtKey scene params
  if sought = key then return x else stored params sought

end Expression

/-- Write an entry, but with an alarm in place of binding a key. -/
def Step.CacheWriting.writeEntryUntil (key : String) (alarm : Fault) (w : CacheWriting)
    (scene : Scene) (k : String) (v : Value) : Generation Unit := do
  if ← w.admits k then
    let v ← w.prepare scene v
    if k = key then throw alarm else w.bind k v

/-- The steps of a press, but with an alarm in place of binding a key. -/
def Press.stepsUntil (press : Press) (key : String) (alarm : Fault) : Registry StepHandler :=
  press.capabilities.steps.replace "write_to_cache"
    (writeToCacheBy (CacheWriting.writeEntryUntil key alarm))

/-- The expressions of a press if one key gives one value, whatever is stored. -/
def Press.resolversFrozen (press : Press) (key : String) (x : Value) : Registry Resolver :=
  press.capabilities.resolvers.replace "cached" (Expression.cachedAs key x)

/-- What the handlers of a face's steps work in, if one key gives one value for the face. -/
def Press.sceneFrozen (press : Press) (scope : Scope) (parents : Lineage) (key : String)
    (x : Value) : Scene :=
  Generation.scene (press.resolversFrozen key x) (press.setting scope parents)

/-- What is left of a drawing after an entry has been written: the other entries of the step, and
the steps after it. -/
def Generation.goOn (handlers : Registry StepHandler)
    (write : CacheWriting → Scene → String → Value → Generation Unit) (scene : Scene)
    (w : CacheWriting) (index : ℕ) (entries : List (String × Value)) (steps : List PlacedStep)
    (canvas : Image) : Generation (Option Image) := do
  inStep scene.scope.face index "write_to_cache" (forM entries fun (k, v) => write w scene k v)
  runSteps handlers scene steps canvas

/-- What is left of a drawing after its steps have been run. -/
def Generation.finish (scene : Scene) : Option Image → Generation (Option Image)
  | none => return none
  | some canvas => do
    info "Card face generated" [("label", scene.scope.face.displayLabel)]
    return some canvas

/-- In the order of the priorities, some steps are run or left out, which leads to a canvas, and the
next one is about to write entries on this. -/
def Generation.StartsWriting (handlers : Registry StepHandler) (scene : Scene) (size : Size)
    (s : State) (w : CacheWriting) (index : ℕ) (entries : List (String × Value))
    (after : List PlacedStep) (canvas : Image) (t : State) : Prop :=
  ∃ blank before params s₁ s₂ s₃ s₄ s₅, blankImage scene.scope.face size s = .ok blank s₁ ∧
    orderSteps scene s₁ = .ok (before ++ ⟨index, .mapping params⟩ :: after) s₂ ∧
    Processes handlers scene before blank s₂ canvas s₃ ∧
    kindOf scene ⟨index, .mapping params⟩ s₃ = .ok "write_to_cache" s₄ ∧
    scene.flag params conditionKey true s₄ = .ok true s₅ ∧
    readWriting scene params { s₅ with draft.working := some canvas } = .ok (w, entries) t

/-- One state, in which a key is bound to a value for the face. -/
abbrev Generation.BindsTo (key : String) (x : Value) : State → State → Prop :=
  Same fun s => s.draft.cache.get? key = some x

variable {key : String} {x : Value} {alarm : Fault} {scene scene' : Scene}

theorem Generation.bindsTo_staging (key : String) (x : Value) : Staging (BindsTo key x) :=
  Same.draft_staging (·.cache.get? key = some x) fun _ _ => id

/-! ## Where the key is bound -/

/-- As long as a key is bound to a value, it gives this value. -/
theorem Expression.agree_cachedAs (h : Scene.Agree (BindsTo key x) scene scene')
    (params : Mapping) :
    Agree (BindsTo key x) (cachedAs key x scene params) (cached scene' params) := by
  rw [cached_eq_stored]
  refine (agree_soughtKey h params).bind fun sought => ?_
  split
  · next hsought =>
    rintro s t ⟨rfl, hs⟩
    rw [stored, get_bind_apply, hsought, hs]
    exact .ok ⟨rfl, hs⟩
  · refine Agree.get_bind fun s t hst => ?_
    obtain rfl := hst.1
    cases s.draft.cache.get? sought with
    | some v => exact .ok hst
    | none => cases params.get? "default" <;> constructor <;> exact hst

theorem Step.CacheWriting.agree_prepare {R : State → State → Prop} (w : CacheWriting)
    (h : Scene.Agree R scene scene') (v : Value) :
    Agree R (w.prepare scene v) (w.prepare scene' v) := by
  rw [prepare, prepare]
  split
  · exact Agree.pure v
  · exact h.resolve v

/-- It stays bound to the value while other keys are bound. -/
theorem Step.CacheWriting.agree_bind_of_ne (w : CacheWriting) {k : String} (hk : k ≠ key)
    (v : Value) : Agree (BindsTo key x) (w.bind k v) (w.bind k v) := by
  refine agree_same_iff.2 fun s hs => ?_
  obtain ⟨t, ht, hcaches⟩ := w.bind_caches k v s
  rw [stateAfter, ht, ← State.caches_own, hcaches, (get?_bound_of_ne hk.symm).1]
  exact hs

theorem Step.CacheWriting.agree_writeEntryUntil (w : CacheWriting)
    (h : Scene.Agree (BindsTo key x) scene scene') (alarm : Fault) (k : String) (v : Value) :
    Agree (BindsTo key x) (w.writeEntryUntil key alarm scene k v)
      (w.writeEntryUntil key alarm scene' k v) := by
  have hR := bindsTo_staging key x
  refine (agree_admits hR.toQuiet (fun h => by rw [h.1]) w k).bind fun admitted => ?_
  cases admitted with
  | false => exact Agree.pure _
  | true =>
    refine Related.bind (w.agree_prepare h v) fun v => ?_
    split
    · exact Agree.throw _
    · next hk => exact w.agree_bind_of_ne hk v

/-- An alarm makes no difference unless it is raised. -/
theorem Step.CacheWriting.agreeUnless_writeEntryUntil {F : Fault → Prop} (halarm : F alarm)
    (w : CacheWriting) (scene : Scene) (key k : String) (v : Value) :
    AgreeUnless F Eq (w.writeEntryUntil key alarm scene k v) (w.writeEntry scene k v) := by
  rw [writeEntry_eq]
  refine (AgreeUnless.refl (w.admits k)).bind fun admitted => ?_
  cases admitted with
  | false => exact .pure _
  | true =>
    refine (AgreeUnless.refl (w.prepare scene v)).bind fun v => ?_
    split
    · exact .excused halarm _
    · exact .refl _

/-! ## What is left of a drawing -/

namespace Generation

theorem drawSteps_eq_finish (handlers : Registry StepHandler) (scene : Scene) (size : Size) :
    drawSteps handlers scene size = (do
      let blank ← blankImage scene.scope.face size
      let steps ← orderSteps scene
      runSteps handlers scene steps blank >>= finish scene) := by
  rw [drawSteps_eq]
  refine bind_congr fun blank => bind_congr fun steps => bind_congr fun canvas? => ?_
  cases canvas? <;> rfl

/-- A step that is run is its handler on the working canvas. -/
theorem runStep_of_kindOf {handlers : Registry StepHandler} {handler : StepHandler} {index : ℕ}
    {params : Mapping} {canvas : Image} {kind : String} {s t u : State}
    (hkind : kindOf scene ⟨index, .mapping params⟩ s = .ok kind t)
    (hruns : scene.flag params conditionKey true t = .ok true u)
    (hhandler : handlers.get? kind = some handler) :
    runStep handlers scene ⟨index, .mapping params⟩ canvas s =
      inStep scene.scope.face index kind (some <$> handler scene params canvas)
        { u with draft.working := some canvas } := by
  have hnamed : inStep scene.scope.face index "step"
      (do (← scene.param params typeKey).readString typeKey) s = .ok kind t :=
    mapFault_ok_iff.2 hkind
  rw [runStep]
  refine (bind_of_ok _ hnamed).trans (mapFault_apply_congr _ ?_)
  rw [bind_of_ok _ hruns, hhandler]
  rfl

/-- After an entry, the step writes the others, and the steps after it are run. -/
theorem runSteps_of_reaches {handlers : Registry StepHandler} {w : CacheWriting} {index : ℕ}
    {before rest : List (String × Value)} {e : String × Value} {params : Mapping}
    {after : List PlacedStep} {canvas : Image} {s t u v : State}
    (hstep : runStep handlers scene ⟨index, .mapping params⟩ canvas s =
      inStep scene.scope.face index "write_to_cache" (do
        w.writeEntries scene (before ++ e :: rest)
        return some (StepFlow.go canvas)) t)
    (hreach : w.Reaches scene (before ++ e :: rest) t before e u)
    (hwrite : w.writeEntry scene e.1 e.2 u = .ok () v) :
    runSteps handlers scene (⟨index, .mapping params⟩ :: after) canvas s =
      goOn handlers CacheWriting.writeEntry scene w index rest after canvas v := by
  have hentries : w.writeEntries scene (before ++ e :: rest) t =
      (forM rest fun (k, v) => w.writeEntry scene k v) v := by
    rw [List.append_cons, CacheWriting.writeEntries_append,
      bind_of_ok _ (hreach.written_snoc.trans hwrite), writeEntries_eq_forM]
  have hrun : runStep handlers scene ⟨index, .mapping params⟩ canvas s =
      (do
        inStep scene.scope.face index "write_to_cache"
          (forM rest fun (k, v) => w.writeEntry scene k v)
        return some (StepFlow.go canvas)) v := by
    rw [hstep, inStep, mapFault_bind_pure]
    exact bind_apply_congr (mapFault_apply_congr _ hentries) _
  rw [runSteps]
  refine (bind_apply_congr hrun _).trans ?_
  rw [bind_assoc]
  rfl

/-- After an entry of a step that a drawing has come to, what is left of it is the rest of this step
and the steps after it. -/
theorem drawSteps_of_startsWriting {handlers : Registry StepHandler} {size : Size}
    {w : CacheWriting} {index : ℕ} {before rest : List (String × Value)} {e : String × Value}
    {after : List PlacedStep} {canvas : Image} {s t u v : State}
    (hhandler : handlers.get? "write_to_cache" = some writeToCache)
    (hstarts : StartsWriting handlers scene size s w index (before ++ e :: rest) after canvas t)
    (hreach : w.Reaches scene (before ++ e :: rest) t before e u)
    (hwrite : w.writeEntry scene e.1 e.2 u = .ok () v) :
    drawSteps handlers scene size s =
      (goOn handlers CacheWriting.writeEntry scene w index rest after canvas >>=
        finish scene) v := by
  obtain ⟨blank, earlier, params, s₁, s₂, s₃, s₄, s₅, hblank, horder, hearlier, hkind, hruns,
    hread⟩ := hstarts
  have hstep : runStep handlers scene ⟨index, .mapping params⟩ canvas s₃ =
      inStep scene.scope.face index "write_to_cache" (do
        w.writeEntries scene (before ++ e :: rest)
        return some (StepFlow.go canvas)) t := by
    rw [runStep_of_kindOf hkind hruns hhandler]
    refine mapFault_apply_congr _ ?_
    rw [writeToCache_eq_readWriting, map_bind, bind_of_ok _ hread, map_bind]
    rfl
  rw [drawSteps_eq_finish, bind_of_ok _ hblank, bind_of_ok _ horder]
  refine bind_apply_congr ?_ _
  rw [runSteps_of_processes hearlier]
  exact runSteps_of_reaches hstep hreach hwrite

end Generation

namespace Press

section Standard

variable {press : Press} (hc : Capabilities.standard = .ok press.capabilities) (scope : Scope)
  (parents : Lineage)

include hc

/-- The expressions of a face go alike while the key is bound. -/
theorem agree_frozen (key : String) (x : Value) :
    Registry.Agree (Resolver.Agree (BindsTo key x)) (press.resolversFrozen key x)
      press.capabilities.resolvers := by
  intro tag
  rw [resolversFrozen, Registry.get?_replace]
  split
  · next htag =>
    rw [htag, Capabilities.get?_cached hc]
    exact .some fun _ _ h params => Expression.agree_cachedAs h params
  · exact Capabilities.agree_resolvers hc (bindsTo_staging key x).toCalm tag

/-- Until the key is bound again, what is left of a drawing goes alike whether it is looked for in
the cache or gives the value in any case. -/
theorem agree_goOn (key : String) (x : Value) (w : CacheWriting) (alarm : Fault) (index : ℕ)
    (entries : List (String × Value)) (steps : List PlacedStep) (canvas : Image) :
    Generation.Agree (BindsTo key x)
      (goOn (press.stepsUntil key alarm) (CacheWriting.writeEntryUntil key alarm)
        (press.sceneFrozen scope parents key x) w index entries steps canvas)
      (goOn (press.stepsUntil key alarm) (CacheWriting.writeEntryUntil key alarm)
        (press.sceneIn scope parents) w index entries steps canvas) := by
  have hR := bindsTo_staging key x
  have hsetting : Setting.Agree (BindsTo key x) (press.setting scope parents)
      (press.setting scope parents) :=
    ⟨rfl, rfl, rfl, agree_draw (·.cache.get? key = some x) scope parents⟩
  have hscene := agree_scene (agree_frozen hc key x) hsetting
  have hsteps : Registry.Agree (StepHandler.Agree (BindsTo key x)) (press.stepsUntil key alarm)
      (press.stepsUntil key alarm) := by
    intro tag
    rw [stepsUntil, Registry.get?_replace]
    split
    · exact .some (agree_writeToCacheBy fun w _ _ h => w.agree_writeEntryUntil h alarm)
    · next htag => exact Capabilities.agree_step_of_ne hc hR.toCalm htag
  have hentries : Generation.Agree (BindsTo key x)
      (forM entries fun (k, v) =>
        w.writeEntryUntil key alarm (press.sceneFrozen scope parents key x) k v)
      (forM entries fun (k, v) => w.writeEntryUntil key alarm (press.sceneIn scope parents) k v) :=
    Agree.forM (fun ⟨k, v⟩ => w.agree_writeEntryUntil hscene alarm k v) entries
  exact Related.bind (hentries.mapFault _) fun _ => agree_runSteps hR hsteps hscene steps canvas

/-- Unless the key is bound again, what is left of a drawing is the same with the alarm. -/
theorem goOn_until (w : CacheWriting) (key : String) (alarm : Fault) (index : ℕ)
    (entries : List (String × Value)) (steps : List PlacedStep) (canvas : Image) (t : State) :
    let scene := press.sceneIn scope parents
    let alarmed := goOn (press.stepsUntil key alarm) (CacheWriting.writeEntryUntil key alarm)
      scene w index entries steps canvas t
    (∃ fault u, alarmed = .error fault u ∧ fault.rootCause = alarm.rootCause) ∨
      alarmed = goOn press.capabilities.steps CacheWriting.writeEntry scene w index entries steps
        canvas t := by
  intro scene alarmed
  have hF := Fault.keptInSteps_causes alarm.rootCause
  have halarm : alarm.rootCause.Causes alarm := rfl
  have hscene : Scene.AgreeUnless alarm.rootCause.Causes Eq scene scene :=
    ⟨⟨rfl, rfl, rfl, fun _ => .refl _⟩, fun _ => .refl _⟩
  have hwrite (w : CacheWriting) (entries : List (String × Value)) :
      AgreeUnless alarm.rootCause.Causes Eq
        (forM entries fun (k, v) => w.writeEntryUntil key alarm scene k v)
        (forM entries fun (k, v) => w.writeEntry scene k v) :=
    .forM (fun ⟨k, v⟩ => w.agreeUnless_writeEntryUntil halarm scene key k v) entries
  have hsteps : Registry.Agree
      (StepHandler.AgreeUnlessIn alarm.rootCause.Causes Eq scene scene)
      (press.stepsUntil key alarm) press.capabilities.steps := by
    intro tag
    rw [stepsUntil, Registry.get?_replace]
    split
    · next htag =>
      rw [htag, Capabilities.get?_writeToCache hc, writeToCache_eq]
      exact .some fun params canvas => (AgreeUnless.refl _).bind fun w =>
        (AgreeUnless.refl _).bind fun entries => (hwrite w entries).bind fun _ => .pure _
    · next htag => exact Capabilities.agreeUnless_step_of_ne hc eq_steady.toCalm hscene htag
  have hentries := (hwrite w entries).mapFault (hF scene.scope.face.label index "write_to_cache")
  have hruns := agreeUnless_runSteps hF hscene eq_steady.toRunning hsteps steps canvas
  exact (hentries.bind fun _ => hruns).apply_eq t

end Standard

/-- If a value without expressions is what comes of looking for a key, the expression is resolved to
this, unless it comes too late or there is not enough room for the value. -/
theorem outcome_resolveFrom_cached {resolvers : Registry Resolver} {setting : Setting}
    {resolver : Resolver} (hresolver : resolvers.get? "cached" = some resolver) {params : Mapping}
    (hkind : params.get? Value.deferredKey = some (.string "cached")) (hx : x.ExpressionFree)
    {levels : ℕ} {u : State}
    (hread : resolver ⟨setting, resolve resolvers setting (levels - 1)⟩ params u =
      (do
        let _ ← Expression.soughtKey ⟨setting, resolve resolvers setting (levels - 1)⟩ params
        return x) u)
    (chain : ℕ) :
    outcome (resolveFrom resolvers setting levels chain (.mapping params)) u =
      if levels = 0 then .error (.resolutionOverflow setting.config.maxDepth)
      else if chain = 0 then .error (.resolutionOverflow setting.config.maxChain)
      else outcome (Expression.soughtKey
          ⟨setting, resolve resolvers setting (levels - 1)⟩ params) u >>= fun _ =>
        if x.height ≤ levels then .ok x
        else .error (.resolutionOverflow setting.config.maxDepth) := by
  cases levels with
  | zero => rfl
  | succ levels =>
    rw [if_neg (Nat.succ_ne_zero levels)]
    rw [Nat.add_sub_cancel] at hread ⊢
    cases chain with
    | zero =>
      rw [outcome, resolveFrom_exhausted hkind]
      rfl
    | succ chain =>
      rw [if_neg (Nat.succ_ne_zero chain), outcome, resolveFrom_expression hkind hresolver, outcome]
      cases hs : Expression.soughtKey ⟨setting, resolve resolvers setting levels⟩ params u with
      | error fault t =>
        rw [bind_of_error _ (hread.trans (bind_of_error _ hs))]
        rfl
      | ok name t =>
        rw [bind_of_ok _ (hread.trans (bind_of_ok _ hs)), resolveFrom_expressionFree hx]
        by_cases hfits : x.height ≤ levels + 1
        · simp only [if_pos hfits]
          rfl
        · simp only [if_neg hfits]
          rfl

/-- An expression for the key gives the value if it does so in any case. -/
theorem cachedAs_eq {params : Mapping} {u : State}
    (hsought : ∀ name, outcome (Expression.soughtKey scene params) u = .ok name → name = key) :
    Expression.cachedAs key x scene params u =
      (do let _ ← Expression.soughtKey scene params; return x) u := by
  rw [Expression.cachedAs]
  cases hs : Expression.soughtKey scene params u with
  | error fault t => rw [bind_of_error _ hs, bind_of_error _ hs]
  | ok name t =>
    rw [bind_of_ok _ hs, bind_of_ok _ hs, if_pos (hsought name (eq_ok_iff.1 hs).1)]

/-- It also does so if the key is bound to it. -/
theorem cached_eq_of_bound {press : Press} (hc : Capabilities.standard = .ok press.capabilities)
    (scope : Scope) (parents : Lineage) (depth : ℕ) {params : Mapping} {u : State}
    (hu : u.draft.cache.get? key = some x)
    (hsought : ∀ name, outcome (Expression.soughtKey (press.sceneAt scope parents depth) params) u =
      .ok name → name = key) :
    Expression.cached (press.sceneAt scope parents depth) params u =
      (do let _ ← Expression.soughtKey (press.sceneAt scope parents depth) params; return x) u := by
  have hscene := agree_sceneAt hc (·.cache.get? key = some x) scope parents depth
  rw [← (Expression.agree_cachedAs hscene params).apply_eq hu]
  exact cachedAs_eq hsought

/-- A value that a step resolved and bound to a key is what every expression that looks for the key
gives, for as long as the face does not bind the key again, whatever else happens. What is left of
the drawing, with an alarm where it would bind the key, leaves the key bound to the value, and goes
on in the same way if the key gives the value whatever is stored; and the alarm makes no difference
if it is not raised. If a drawing has come to the step and the step to this entry, then that is what
is left of the drawing. What an expression for the key is resolved to is just the value, or an
overflow if there are no levels or no rewritings left for the expression or too few levels for the
value. -/
theorem writeEntry_freezes (press : Press) (hc : Capabilities.standard = .ok press.capabilities)
    (scope : Scope) (parents : Lineage) {w : CacheWriting} {key : String} {v : Value} {s t : State}
    (heager : w.isLazy = false) (hadmitted : w.verdict key s.caches = .ok true)
    (h : w.writeEntry (press.sceneIn scope parents) key v s = .ok () t) :
    let scene := press.sceneIn scope parents
    let setting := press.setting scope parents
    ∃ x, outcome (scene.resolve v) s = .ok x ∧ t.draft.cache.get? key = some x ∧
      (∀ alarm index entries steps canvas,
        let alarmed (scene : Scene) := goOn (press.stepsUntil key alarm)
          (CacheWriting.writeEntryUntil key alarm) scene w index entries steps canvas
        (stateAfter (alarmed scene) t).draft.cache.get? key = some x ∧
          alarmed scene t = alarmed (press.sceneFrozen scope parents key x) t ∧
          ((∃ fault u, alarmed scene t = .error fault u ∧ fault.rootCause = alarm.rootCause) ∨
            alarmed scene t = goOn press.capabilities.steps CacheWriting.writeEntry scene w index
              entries steps canvas t)) ∧
      (∀ size s₀ s₁ index before entries steps canvas,
        StartsWriting press.capabilities.steps scene size s₀ w index (before ++ (key, v) :: entries)
          steps canvas s₁ →
        w.Reaches scene (before ++ (key, v) :: entries) s₁ before (key, v) s →
        drawSteps press.capabilities.steps scene size s₀ =
          (goOn press.capabilities.steps CacheWriting.writeEntry scene w index entries steps canvas
            >>= finish scene) t) ∧
      ∀ resolvers u, (resolvers = press.resolversFrozen key x ∨
          resolvers = press.capabilities.resolvers ∧ u.draft.cache.get? key = some x) →
        ∀ (params : Mapping) levels chain,
          params.get? Value.deferredKey = some (.string "cached") →
          let sought := outcome (Expression.soughtKey
            ⟨setting, resolve resolvers setting (levels - 1)⟩ params) u
          (∀ name, sought = .ok name → name = key) →
          outcome (resolveFrom resolvers setting levels chain (.mapping params)) u =
            if levels = 0 then .error (.resolutionOverflow press.config.maxDepth)
            else if chain = 0 then .error (.resolutionOverflow press.config.maxChain)
            else sought >>= fun _ =>
              if x.height ≤ levels then .ok x
              else .error (.resolutionOverflow press.config.maxDepth) := by
  intro scene setting
  have hwritten := CacheWriting.of_writeEntry_ok (e := (key, v)) h
  rw [hadmitted] at hwritten
  obtain ⟨-, x, hx, hcaches⟩ := hwritten.resolve_left fun hskipped => nomatch hskipped.1
  have hprepare : w.prepare scene v = scene.resolve v := by
    rw [CacheWriting.prepare, heager]
    rfl
  rw [hprepare] at hx
  have hfree := (resolved_iff.1 (resolved_of_resolve (eq_ok_iff.2 ⟨hx, rfl⟩))).1
  have hbound : t.draft.cache.get? key = some x := by
    rw [← State.caches_own, hcaches]
    exact Dict.get?_insert_self _ _ _
  refine ⟨x, hx, hbound, fun alarm index entries steps canvas => ⟨?_, ?_, ?_⟩,
    fun size s₀ s₁ index before entries steps canvas hstarts hreach => ?_, ?_⟩
  · have hagree := agree_goOn hc scope parents key x w alarm index entries steps canvas
    have hends := (hagree.outcome_eq ⟨rfl, hbound⟩).2
    exact hends.1 ▸ hends.2
  · have hagree := agree_goOn hc scope parents key x w alarm index entries steps canvas
    exact (hagree.apply_eq hbound).symm
  · exact goOn_until hc scope parents w key alarm index entries steps canvas t
  · exact drawSteps_of_startsWriting (Capabilities.get?_writeToCache hc) hstarts hreach h
  · rintro resolvers u (rfl | ⟨rfl, hu⟩) params levels chain hkind sought hsought
    · have hresolver : (press.resolversFrozen key x).get? "cached" =
          some (Expression.cachedAs key x) := by
        rw [resolversFrozen, Registry.get?_replace, if_pos rfl]
      exact outcome_resolveFrom_cached hresolver hkind hfree (cachedAs_eq hsought) chain
    · exact outcome_resolveFrom_cached (Capabilities.get?_cached hc) hkind hfree
        (cached_eq_of_bound hc scope parents (levels - 1) hu hsought) chain

/-- A step that binds a key to what another one gives. -/
def copying : Mapping :=
  Dict.ofList [
    (typeKey, .string "write_to_cache"), ("key", .string "k"), ("value", linkTo "a"),
    ("is_lazy", .bool false)]

/-- A key is bound to what another one gives; looking for it takes two levels and one rewriting. The
step that binds it is the last one, so nothing is left of the drawing then. -/
theorem writeEntry_freezes_copy :
    let press := Press.ofPool .empty
    let scope : Scope := ⟨.empty 0, ⟨[], [.mapping copying], some ⟨1, 1⟩⟩⟩
    let scene := press.sceneIn scope []
    let w : CacheWriting := ⟨.add, false, false, false⟩
    let s₀ : State := ⟨.start .empty ∅, ⟨Dict.ofList [("a", .bool true)], none, 0⟩, []⟩
    ∃ s t canvas, Capabilities.standard = .ok press.capabilities ∧ w.isLazy = false ∧
      w.verdict "k" s.caches = .ok true ∧
      w.writeEntry scene "k" (linkTo "a") s = .ok () t ∧
      t.draft.cache.get? "k" = some (.bool true) ∧
      StartsWriting press.capabilities.steps scene ⟨1, 1⟩ s₀ w 0 [("k", linkTo "a")] [] canvas s ∧
      drawSteps press.capabilities.steps scene ⟨1, 1⟩ s₀ =
        (goOn press.capabilities.steps CacheWriting.writeEntry scene w 0 [] [] canvas >>=
          finish scene) t ∧
      ∀ u, u.draft.cache.get? "k" = some (.bool true) →
        let resolved chain := outcome (resolveFrom press.capabilities.resolvers
          (press.setting scope []) 2 chain (linkTo "k")) u
        resolved 1 = .ok (.bool true) ∧
          resolved 0 = .error (.resolutionOverflow Config.standard.maxChain) := by
  intro press scope scene w s₀
  let blank : Image := ⟨1, .blank 1 1⟩
  let s₁ := stateAfter (blankImage scope.face ⟨1, 1⟩) s₀
  let s₂ := stateAfter (orderSteps scene) s₁
  let s₃ : State := { s₂ with draft.working := some blank }
  let t := stateAfter (w.writeEntry scene "k" (linkTo "a")) s₃
  have hblank : blankImage scope.face ⟨1, 1⟩ s₀ = .ok blank s₁ :=
    eq_ok_iff.2 ⟨by simp only [s₀]; cbv, rfl⟩
  have horder : orderSteps scene s₁ = .ok [⟨0, .mapping copying⟩] s₂ :=
    eq_ok_iff.2 ⟨by simp only [s₁, scene, s₀, scope, press]; cbv, rfl⟩
  have hread : readWriting scene copying s₃ = .ok (w, [("k", linkTo "a")]) s₃ := rfl
  have hstarts : StartsWriting press.capabilities.steps scene ⟨1, 1⟩ s₀ w 0 [("k", linkTo "a")] []
      blank s₃ :=
    ⟨blank, [], copying, s₁, s₂, s₂, s₂, s₂, hblank, horder, .nil, rfl, rfl, hread⟩
  have hok : w.writeEntry scene "k" (linkTo "a") s₃ = .ok () t :=
    eq_ok_iff.2 ⟨by simp only [w, scene, s₃, s₂, s₁, s₀, scope, press]; cbv, rfl⟩
  have hresolved : outcome (scene.resolve (linkTo "a")) s₃ = .ok (.bool true) := by
    simp only [scene, s₃, s₂, s₁, s₀, scope, press]
    cbv
  have hadmitted : w.verdict "k" s₃.caches = .ok true := by
    simp only [w, scene, s₃, s₂, s₁, s₀, scope, press]
    cbv
  obtain ⟨x, hx, hbound, -, hdrawn, hreads⟩ := writeEntry_freezes press
    Capabilities.standard_eq_table scope [] rfl hadmitted hok
  cases hx.symm.trans hresolved
  refine ⟨s₃, t, blank, Capabilities.standard_eq_table, rfl, hadmitted, hok, hbound, hstarts,
    hdrawn ⟨1, 1⟩ s₀ s₃ 0 [] [] [] blank hstarts (.head _ _ _), fun u hu => ?_⟩
  have hsought : outcome (Expression.soughtKey (press.sceneAt scope [] 1)
      (Dict.ofList [(Value.deferredKey, .string "cached"), ("key", .string "k")])) u = .ok "k" :=
    rfl
  have hread (chain : ℕ) := hreads _ u (.inr ⟨rfl, hu⟩) _ 2 chain rfl fun name hname =>
    (Except.ok.inj (hsought.symm.trans hname)).symm
  exact ⟨(hread 1).trans (congrArg (· >>= _) hsought), hread 0⟩

end Press

end CardPress
