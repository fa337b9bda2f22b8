import CardPress.Proofs.Generation.Bounds
import CardPress.Proofs.Generation.TemplateFaults

/-!
# Where drawing itself fails

Apart from its steps, drawing fails in two places: where a face cannot be composed, and where a
template that is asked for is not there or is being drawn already. Here something else is done in
these places, an alarm. If it makes no difference what the alarm does, its place is never reached.

## Main definitions

* `TemplateAlarm` — what is done in place of the faults about templates.
* `Press.drawAlarmed` — drawing under such alarms.
* `Press.Nested` — the lineages that drawing a face leads to.

## Main results

* `Press.drawAlarmed_eq` — where templates can be composed, no composition raises an alarm.
* `Press.raises_drawAlarmed` — the faults of drawing are plain ones and those of the alarms, in
  steps.
-/

namespace CardPress

open Generation

/-- What is done in place of a fault about templates. -/
structure TemplateAlarm where
  /-- A face cannot be composed. -/
  composition : Fault → Generation (Option Image)
  /-- A template that an expression asks for is not there or is being drawn already. -/
  request : Fault → Generation (Option Image)

namespace Press

/-- Draw a face under alarms. -/
def drawAlarmed (press : Press) (alarm : TemplateAlarm) (parents : Lineage) (face : CardFace) :
    Generation (Option Image) :=
  match press.pool.compose face with
  | .error fault => alarm.composition fault
  | .ok composition =>
    match composition.size with
    | none => return none
    | some size =>
      let lineage : Lineage := ⟨face, composition⟩ :: parents
      let draw (label : String) : Generation (Option Image) :=
        match _h : press.pool.lookup label with
        | none => alarm.request (.unknownTemplate label)
        | some template =>
          if _hd : lineage.isDrawing template then
            alarm.request (.templateCycle (lineage.labels ++ [template.displayLabel]))
          else drawAlarmed press alarm lineage template
      let setting : Setting := ⟨press.config, ⟨face, composition⟩, parents, draw⟩
      inNewDraft (drawSteps press.capabilities.steps ⟨setting, press.resolving setting⟩ size)
termination_by (press.idle (active parents face)).length
decreasing_by
  refine length_idle_cons _h ((any_active parents face template composition).trans ?_)
  exact Bool.eq_false_iff.2 _hd

/-- Ask for the template with a label under alarms. -/
def requestAlarmed (press : Press) (alarm : TemplateAlarm) (lineage : Lineage) (label : String) :
    Generation (Option Image) :=
  match press.pool.lookup label with
  | none => alarm.request (.unknownTemplate label)
  | some template =>
    if lineage.isDrawing template then
      alarm.request (.templateCycle (lineage.labels ++ [template.displayLabel]))
    else press.drawAlarmed alarm lineage template

variable {press : Press} {alarm : TemplateAlarm} {parents : Lineage} {face : CardFace}
  {composition : Composition}

/-- What comes of a face that can be composed. -/
theorem drawAlarmed_of_compose (h : press.pool.compose face = .ok composition) :
    press.drawAlarmed alarm parents face =
      match composition.size with
      | none => pure none
      | some size =>
        let setting : Setting := ⟨press.config, ⟨face, composition⟩, parents,
          press.requestAlarmed alarm (⟨face, composition⟩ :: parents)⟩
        inNewDraft
          (drawSteps press.capabilities.steps ⟨setting, press.resolving setting⟩ size) := by
  have hrequest : press.requestAlarmed alarm (⟨face, composition⟩ :: parents) = fun label =>
      match _h : press.pool.lookup label with
      | none => alarm.request (.unknownTemplate label)
      | some template =>
        if _hd : Lineage.isDrawing (⟨face, composition⟩ :: parents) template then
          alarm.request (.templateCycle
            (Lineage.labels (⟨face, composition⟩ :: parents) ++ [template.displayLabel]))
        else press.drawAlarmed alarm (⟨face, composition⟩ :: parents) template := by
    funext label
    rw [requestAlarmed]
    split
    · next hl => rw [hl]
    · next template hl => rw [hl]; rfl
  rw [drawAlarmed, h, hrequest]

/-- The lineages that drawing a face leads to: the face alone, and then every template that is asked
for while it is not being drawn. -/
inductive Nested (press : Press) (start : CardFace) : Lineage → Prop where
  | start {composition : Composition} (h : press.pool.compose start = .ok composition) :
    Nested press start [⟨start, composition⟩]
  | within {lineage : Lineage} {label : String} {template : CardFace} {composition : Composition}
    (hlineage : Nested press start lineage) (hl : press.pool.lookup label = some template)
    (hd : lineage.isDrawing template = false)
    (h : press.pool.compose template = .ok composition) :
    Nested press start (⟨template, composition⟩ :: lineage)

section Standard

variable {capabilities : Capabilities} (hc : Capabilities.standard = .ok capabilities)
  {E : Fault → Prop} (hE : Fault.Inclusive E)

include hc hE

theorem raises_standard_resolvers (tag : String) (resolver : Resolver)
    (h : capabilities.resolvers.get? tag = some resolver) (setting : Setting)
    (hdraw : ∀ label, Raises E (setting.draw label)) : resolver.RaisesIn E setting := by
  rcases Expression.standard_raises hE _ (Capabilities.mem_standard_resolvers hc h) with
    htag | hraises
  · dsimp only at htag
    cases htag
    rw [(Capabilities.standard_get? hc).1] at h
    cases h
    exact Expression.raises_imageFromTemplate hE hdraw
  · exact fun resolve hresolve params => hraises ⟨setting, resolve⟩ hresolve params

theorem raises_standard_steps (tag : String) (handler : StepHandler)
    (h : capabilities.steps.get? tag = some handler) : StepHandler.Raises E handler :=
  Step.standard_raises hE _ (Capabilities.mem_standard_steps hc h)

end Standard

/-- Drawing the steps of a face has faults of a class if its expressions and steps do. -/
theorem raises_drawSteps_of_setting {E : Fault → Prop} (hE : Fault.Inclusive E) {setting : Setting}
    (hresolvers : ∀ tag resolver, press.capabilities.resolvers.get? tag = some resolver →
      resolver.RaisesIn E setting)
    (hsteps : ∀ tag handler, press.capabilities.steps.get? tag = some handler →
      StepHandler.Raises E handler) (size : Size) :
    Raises E
      (inNewDraft
        (drawSteps press.capabilities.steps ⟨setting, press.resolving setting⟩ size)) := by
  have hscene : Scene.Raises E ⟨setting, press.resolving setting⟩ :=
    fun v => raises_resolve hE hresolvers _ v
  exact Ends.inNewDraft (raises_drawSteps hE hsteps hscene size)

section Composed

variable (hpool : ∀ label template, press.pool.lookup label = some template →
  ∃ composition, press.pool.compose template = .ok composition)

include hpool

/-- If the templates can be composed, nothing depends on what is done where a face cannot be. -/
theorem drawAlarmed_eq (hface : ∃ composition, press.pool.compose face = .ok composition)
    (alarm : Fault → Generation (Option Image)) (parents : Lineage) :
    press.drawAlarmed ⟨alarm, throw⟩ parents face = press.drawFace parents face := by
  induction hn : (press.idle (active parents face)).length using Nat.strong_induction_on
    generalizing parents face with
  | _ n ih =>
    obtain ⟨composition, h⟩ := hface
    rw [drawFace_eq, drawOnce_of_compose h, drawAlarmed_of_compose h]
    have hrequest : press.requestAlarmed ⟨alarm, throw⟩ (⟨face, composition⟩ :: parents) =
        press.request press.drawFace (⟨face, composition⟩ :: parents) := by
      funext label
      rw [requestAlarmed, request]
      cases hl : press.pool.lookup label with
      | none => rfl
      | some template =>
        dsimp only
        split
        · rfl
        · next hd =>
          have hlt : (press.idle (template :: active parents face)).length < n :=
            hn ▸ length_idle_cons hl
              ((any_active _ _ _ composition).trans (Bool.eq_false_iff.2 hd))
          exact ih _ hlt (hpool label template hl) _ rfl
    cases composition.size with
    | none => rfl
    | some size =>
      dsimp only
      rw [hrequest]

/-- If the alarms for templates that cannot be drawn raise faults of some class, so does drawing. -/
theorem raises_drawAlarmed {E : Fault → Prop} (hE : Fault.Inclusive E)
    (hresolvers : ∀ tag resolver, press.capabilities.resolvers.get? tag = some resolver →
      ∀ setting, (∀ label, Raises E (setting.draw label)) → resolver.RaisesIn E setting)
    (hsteps : ∀ tag handler, press.capabilities.steps.get? tag = some handler →
      StepHandler.Raises E handler) {start : CardFace}
    (hunknown : ∀ lineage label, press.Nested start lineage → press.pool.lookup label = none →
      Raises E (alarm.request (.unknownTemplate label)))
    (hcycle : ∀ lineage label template, press.Nested start lineage →
      press.pool.lookup label = some template → lineage.isDrawing template = true →
      Raises E (alarm.request (.templateCycle (lineage.labels ++ [template.displayLabel]))))
    (h : press.pool.compose face = .ok composition)
    (hlineage : press.Nested start (⟨face, composition⟩ :: parents)) :
    Raises E (press.drawAlarmed alarm parents face) := by
  induction hn : (press.idle (active parents face)).length using Nat.strong_induction_on
    generalizing parents face composition with
  | _ n ih =>
    rw [drawAlarmed_of_compose h]
    cases composition.size with
    | none => exact Raises.pure none
    | some size =>
      have hdraw (label : String) :
          Raises E (press.requestAlarmed alarm (⟨face, composition⟩ :: parents) label) := by
        rw [requestAlarmed]
        cases hl : press.pool.lookup label with
        | none => exact hunknown _ label hlineage hl
        | some template =>
          dsimp only
          split
          · next hd => exact hcycle _ label template hlineage hl hd
          · next hd =>
            have hd := Bool.eq_false_iff.2 hd
            have hlt : (press.idle (template :: active parents face)).length < n :=
              hn ▸ length_idle_cons hl ((any_active _ _ _ composition).trans hd)
            obtain ⟨inner, hinner⟩ := hpool label template hl
            exact ih _ hlt hinner (hlineage.within hl hd hinner) rfl
      exact raises_drawSteps_of_setting hE
        (fun tag resolver h => hresolvers tag resolver h _ hdraw) hsteps size

end Composed

end Press

end CardPress
