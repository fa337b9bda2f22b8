import CardPress.Proofs.Generation.Frame

/-!
# Drawing in cells

How deep resolving is nested for a face is a number in its draft: it goes up before a value is
resolved and comes back down afterwards, also after a fault. And while a template is drawn, the
draft of the face that it is drawn for lies in the state, with those of the faces around that one,
and is taken from there when the template is done. Drawing and resolving in this way, without any
other account of the levels and of the drafts, comes to the same as without the cells; so each cell
holds in the end what it held before.

## Main definitions

* `Generation.deeper`, `Generation.onBehalf` — going one level deeper, and drawing for a face.
* `Generation.resolveInCells`, `Press.drawInCells` — resolving and drawing that keep the cells.
* `Generation.Besides` — states that are the same apart from their cells.

## Main results

* `Press.drawInCells_eq` — drawing in cells is drawing.
* `Press.resolveInCells_apply` — resolving in cells goes as deep as the counter allows.
-/

namespace CardPress

namespace Generation

variable {α : Type}

/-- Do something one level deeper, if there is another level, and come back whatever comes of it. -/
def deeper (limit : ℕ) (x : Generation α) : Generation α := fun s =>
  let depth := s.draft.depth
  if limit ≤ depth then .error (.resolutionOverflow limit) s
  else
    match x { s with draft.depth := depth + 1 } with
    | .ok a t => .ok a { t with draft.depth := depth }
    | .error fault t => .error fault { t with draft.depth := depth }

/-- The state when a face is done: the innermost of the drafts around is the draft again. -/
def State.leave (s : State) : State :=
  match s.around with
  | [] => s
  | draft :: around => ⟨s.run, draft, around⟩

/-- Do something in a draft of its own while the draft from before is the innermost one around. -/
def onBehalf (x : Generation α) : Generation α := fun s =>
  match x { State.fresh s.run with around := s.draft :: s.around } with
  | .ok a t => .ok a t.leave
  | .error fault t => .error fault t.leave

/-- Resolve a value as deep as the counter in the draft allows. The levels are only there for this
to end; what is done beyond them is left open. -/
def resolveInCells (beyond : Setting → Value → Generation Value) (resolvers : Registry Resolver)
    (setting : Setting) : (levels : ℕ) → Value → Generation Value
  | 0, v => deeper setting.config.maxDepth (beyond setting v)
  | levels + 1, v => deeper setting.config.maxDepth do
    let inner := resolveInCells beyond resolvers setting levels
    match ← unwrap resolvers ⟨setting, inner⟩ setting.config.maxChain v with
    | .sequence items => return .sequence (← items.mapM inner)
    | .mapping fields => return .mapping (← fields.mapM inner)
    | v => return v

/-- How deep resolving is nested for a face, and the drafts around its own. -/
structure Cells where
  depth : ℕ
  around : List Draft

def State.cells (s : State) : Cells :=
  ⟨s.draft.depth, s.around⟩

/-- States with some cells each that are the same apart from these. -/
structure Besides (here there : Cells) (s t : State) : Prop where
  run : s.run = t.run
  cache : s.draft.cache = t.draft.cache
  working : s.draft.working = t.draft.working
  here : s.cells = here
  there : t.cells = there

namespace Besides

variable {here there : Cells} {s t : State}

theorem refl (s : State) : Besides s.cells s.cells s s :=
  ⟨rfl, rfl, rfl, rfl, rfl⟩

theorem eq {cells : Cells} (h : Besides cells cells s t) : s = t := by
  obtain ⟨run, ⟨cache, working, depth⟩, around⟩ := s
  obtain ⟨run', ⟨cache', working', depth'⟩, around'⟩ := t
  obtain ⟨hrun, hcache, hworking, hhere, hthere⟩ := h
  cases hhere.trans hthere.symm
  cases hrun
  cases hcache
  cases hworking
  rfl

/-- No expression and no step looks into the cells. -/
theorem storing (here there : Cells) : Storing (Besides here there) where
  cache := Besides.cache
  working := Besides.working
  files := fun h => congrArg Run.files h.run
  nextStamp := fun h => congrArg Run.nextStamp h.run
  globalCache := fun h => congrArg Run.globalCache h.run
  record := fun entry h =>
    ⟨congrArg (Run.record · entry) h.run, h.cache, h.working, h.here, h.there⟩
  withStamp := fun n h =>
    ⟨congrArg (fun r : Run => { r with nextStamp := n }) h.run, h.cache, h.working, h.here, h.there⟩
  withFiles := fun files h =>
    ⟨congrArg (fun r : Run => { r with files := files }) h.run, h.cache, h.working, h.here, h.there⟩
  withCached := fun key v h =>
    ⟨h.run, congrArg (Dict.insert · key v) h.cache, h.working, h.here, h.there⟩

theorem keepsGlobal (here there : Cells) : KeepsGlobal (Besides here there) := fun key v h =>
  ⟨congrArg (fun r : Run => { r with globalCache := r.globalCache.insert key v }) h.run, h.cache,
    h.working, h.here, h.there⟩

theorem running (here there : Cells) : Running (Besides here there) where
  toQuiet := (storing here there).toQuiet
  withWorking := fun _ h => ⟨h.run, h.cache, rfl, h.here, h.there⟩

end Besides

variable {x y : Generation α} {depth limit : ℕ} {around : List Draft} {there : Cells}

/-- Whatever ends one level deeper comes back. -/
theorem agree_deeper (h : depth < limit) (hxy : Agree (Besides ⟨depth + 1, around⟩ there) x y) :
    Agree (Besides ⟨depth, around⟩ there) (deeper limit x) y := by
  rintro s t ⟨hrun, hcache, hworking, hhere, hthere⟩
  cases hhere
  have hr := hxy { s with draft.depth := s.draft.depth + 1 } t ⟨hrun, hcache, hworking, rfl, hthere⟩
  simp only [deeper, if_neg (Nat.not_le.2 h)]
  generalize x _ = r, y t = r' at hr ⊢
  cases hr with
  | ok h => exact .ok ⟨h.run, h.cache, h.working, congrArg (Cells.mk _ ·.around) h.here, h.there⟩
  | error h =>
    exact .error ⟨h.run, h.cache, h.working, congrArg (Cells.mk _ ·.around) h.here, h.there⟩

/-- Without a level left, nothing is done. -/
theorem agree_deeper_throw (h : limit ≤ depth) :
    Agree (Besides ⟨depth, around⟩ there) (deeper limit x) (throw (.resolutionOverflow limit)) := by
  rintro s t ⟨hrun, hcache, hworking, hhere, hthere⟩
  cases hhere
  simp only [deeper, if_pos h]
  exact .error ⟨hrun, hcache, hworking, rfl, hthere⟩

/-- What is done for a face gives back its draft, and the drafts around it, from the state. -/
theorem agree_onBehalf (h : ∀ draft, Agree (Besides ⟨0, draft :: around⟩ ⟨0, []⟩) x y) :
    Agree (Besides ⟨depth, around⟩ there) (onBehalf x) (inNewDraft y) := by
  rintro s t ⟨hrun, hcache, hworking, hhere, hthere⟩
  cases hhere
  have hr := h s.draft { State.fresh s.run with around := s.draft :: s.around } (.fresh t.run)
    ⟨hrun, congrArg Run.globalCache hrun, rfl, rfl, rfl⟩
  have hleave {s' t' : State} (h : Besides ⟨0, s.draft :: s.around⟩ ⟨0, []⟩ s' t') :
      Besides s.cells there s'.leave { t with run := t'.run } := by
    have haround : s'.around = s.draft :: s.around := congrArg Cells.around h.here
    rw [State.leave, haround]
    exact ⟨h.run, hcache, hworking, rfl, hthere⟩
  simp only [onBehalf, inNewDraft]
  generalize x _ = r, y _ = r' at hr ⊢
  cases hr with
  | ok h => exact .ok (hleave h)
  | error h => exact .error (hleave h)

/-- Resolving in cells is resolving with as many levels to go as the counter leaves. -/
theorem agree_resolveInCells {resolvers : Registry Resolver} {setting setting' : Setting}
    (beyond : Setting → Value → Generation Value)
    (hr : ∀ depth,
      Registry.Agree (Resolver.Agree (Besides ⟨depth, around⟩ there)) resolvers resolvers)
    (hsetting : ∀ depth, Setting.Agree (Besides ⟨depth, around⟩ there) setting setting')
    (depth : ℕ) {left levels : ℕ} (hdepth : left = setting.config.maxDepth - depth)
    (hlevels : left ≤ levels) (v : Value) :
    Agree (Besides ⟨depth, around⟩ there) (resolveInCells beyond resolvers setting levels v)
      (resolve resolvers setting' left v) := by
  induction left generalizing depth levels v with
  | zero =>
    rw [resolve, ← (hsetting depth).config]
    cases levels <;> exact agree_deeper_throw (by omega)
  | succ left ih =>
    obtain ⟨levels, rfl⟩ : ∃ l, levels = l + 1 := ⟨levels - 1, by omega⟩
    have hinner := @ih (depth + 1) levels (by omega) (by omega)
    have hscene : Scene.Agree (Besides ⟨depth + 1, around⟩ there)
        ⟨setting, resolveInCells beyond resolvers setting levels⟩
        ⟨setting', resolve resolvers setting' left⟩ := ⟨hsetting (depth + 1), hinner⟩
    have hunwrap := (agreeUnless_unwrap hscene.unless
      ((hr (depth + 1)).mono fun _ _ hxy params => (hxy _ _ hscene params).unless)
      setting.config.maxChain v).agree
    rw [resolveInCells, resolve_succ, ← (hsetting depth).config]
    refine agree_deeper (by omega) (hunwrap.bind fun w => ?_)
    cases w with
    | sequence items =>
      exact (AgreeUnless.mapM (fun a => (hinner a).unless) items).agree.bind fun _ => Agree.pure _
    | mapping fields =>
      exact (AgreeUnless.dictMapM (fun a => (hinner a).unless) fields).agree.bind fun _ =>
        Agree.pure _
    | null | bool | number | string | image | font => exact Agree.pure _

end Generation

open Generation

namespace Press

/-- Draw a face with its levels and the drafts around it in cells. -/
def drawInCells (press : Press) (beyond : Setting → Value → Generation Value) (parents : Lineage)
    (face : CardFace) : Generation (Option Image) := do
  let composition ← press.pool.compose face
  match composition.size with
  | none => return none
  | some size =>
    let lineage : Lineage := ⟨face, composition⟩ :: parents
    let draw (label : String) : Generation (Option Image) :=
      match _h : press.pool.lookup label with
      | none => throw (.unknownTemplate label)
      | some template =>
        if _hd : lineage.isDrawing template then
          throw (.templateCycle (lineage.labels ++ [template.displayLabel]))
        else drawInCells press beyond lineage template
    let setting : Setting := ⟨press.config, ⟨face, composition⟩, parents, draw⟩
    let resolving :=
      resolveInCells beyond press.capabilities.resolvers setting setting.config.maxDepth
    onBehalf (drawSteps press.capabilities.steps ⟨setting, resolving⟩ size)
termination_by (press.idle (active parents face)).length
decreasing_by
  refine length_idle_cons _h ((any_active parents face template composition).trans ?_)
  exact Bool.eq_false_iff.2 _hd

/-- What the steps of a face go by while it is drawn in cells. -/
def settingInCells (press : Press) (beyond : Setting → Value → Generation Value) (scope : Scope)
    (parents : Lineage) : Setting :=
  press.settingWith (press.drawInCells beyond) scope parents

variable {press : Press} {beyond : Setting → Value → Generation Value}

theorem drawInCells_of_compose {parents : Lineage} {face : CardFace} {composition : Composition}
    (h : press.pool.compose face = .ok composition) :
    press.drawInCells beyond parents face =
      match composition.size with
      | none => pure none
      | some size =>
        let setting := press.settingInCells beyond ⟨face, composition⟩ parents
        onBehalf (drawSteps press.capabilities.steps
          ⟨setting,
            resolveInCells beyond press.capabilities.resolvers setting press.config.maxDepth⟩
          size) := by
  have hrequest : press.request (press.drawInCells beyond) (⟨face, composition⟩ :: parents) =
      fun label =>
        match _h : press.pool.lookup label with
        | none => throw (.unknownTemplate label)
        | some template =>
          if _hd : Lineage.isDrawing (⟨face, composition⟩ :: parents) template then
            throw (.templateCycle
              (Lineage.labels (⟨face, composition⟩ :: parents) ++ [template.displayLabel]))
          else press.drawInCells beyond (⟨face, composition⟩ :: parents) template := by
    funext label
    rw [request]
    split
    · next hl => rw [hl]
    · next template hl => rw [hl]; rfl
  rw [drawInCells, h, settingInCells, settingWith, hrequest]
  rfl

/-- Drawing in cells goes as drawing does, and gives every cell back. -/
theorem agree_drawInCells (hc : Capabilities.standard = .ok press.capabilities) {depth : ℕ}
    {around : List Draft} {there : Cells} (parents : Lineage) (face : CardFace) :
    Generation.Agree (Besides ⟨depth, around⟩ there) (press.drawInCells beyond parents face)
      (press.drawFace parents face) := by
  induction hn : (press.idle (active parents face)).length using Nat.strong_induction_on
    generalizing depth around there parents face with
  | _ n ih =>
    cases h : press.pool.compose face with
    | error fault =>
      rw [drawFace_eq, drawOnce, drawInCells, h]
      exact Agree.throw fault
    | ok composition =>
      rw [drawFace_eq, drawOnce_of_compose h, drawInCells_of_compose h]
      cases composition.size with
      | none => exact Agree.pure none
      | some size =>
        refine agree_onBehalf fun draft => ?_
        have hsetting (depth : ℕ) : Setting.Agree (Besides ⟨depth, draft :: around⟩ ⟨0, []⟩)
            (press.settingInCells beyond ⟨face, composition⟩ parents)
            (press.setting ⟨face, composition⟩ parents) := by
          refine ⟨rfl, rfl, rfl, agree_request rfl rfl fun label template hl hd => ?_⟩
          have hlt : (press.idle (template :: active parents face)).length < n :=
            hn ▸ length_idle_cons hl ((any_active _ _ _ composition).trans hd)
          exact ih _ hlt _ template rfl
        have hresolvers (depth : ℕ) := Capabilities.agree_resolvers_of_quiet hc
          (Besides.storing ⟨depth, draft :: around⟩ ⟨0, []⟩).toQuiet
        have hresolve := agree_resolveInCells beyond hresolvers hsetting 0 rfl le_rfl
        have hstoring := Besides.storing ⟨0, draft :: around⟩ ⟨0, []⟩
        have hsteps := Capabilities.agree_steps hc hstoring.toCalm
          (Step.agree_writeToCache hstoring (Besides.keepsGlobal _ _))
        exact agree_drawSteps (Besides.running _ _) hsteps ⟨hsetting 0, hresolve⟩ size

/-- Drawing in cells is drawing. -/
theorem drawInCells_eq (hc : Capabilities.standard = .ok press.capabilities) :
    press.drawInCells beyond = press.drawFace := by
  funext parents face s
  exact (agree_drawInCells hc parents face s s (.refl s)).eq_of fun _ _ => Besides.eq

/-- Resolving in cells is resolving with as many levels to go as the counter leaves. -/
theorem resolveInCells_apply (hc : Capabilities.standard = .ok press.capabilities) (scope : Scope)
    (parents : Lineage) (v : Value) (s : State) :
    resolveInCells beyond press.capabilities.resolvers (press.settingInCells beyond scope parents)
        press.config.maxDepth v s =
      Generation.resolve press.capabilities.resolvers (press.setting scope parents)
        (press.config.maxDepth - s.draft.depth) v s := by
  have hresolvers (depth : ℕ) := Capabilities.agree_resolvers_of_quiet hc
    (Besides.storing ⟨depth, s.around⟩ s.cells).toQuiet
  have hsetting (depth : ℕ) : Setting.Agree (Besides ⟨depth, s.around⟩ s.cells)
      (press.settingInCells beyond scope parents) (press.setting scope parents) :=
    ⟨rfl, rfl, rfl, agree_request rfl rfl fun _ template _ _ => agree_drawInCells hc _ template⟩
  have h := agree_resolveInCells beyond hresolvers hsetting s.draft.depth rfl (Nat.sub_le ..) v
  exact (h s s (.refl s)).eq_of fun _ _ => Besides.eq

end Press

end CardPress
