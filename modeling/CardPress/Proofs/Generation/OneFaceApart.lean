import CardPress.Proofs.Generation.Agreement
import CardPress.Proofs.Generation.View

/-!
# Pools that differ in one face

In one pool a template may stand in another form than in another pool, where it keeps its label and
its serial number and no other template inherits from it. While that template is being drawn it is
not drawn again, so the others are drawn as they were.

## Main definitions

* `TemplatePool.SameBut` — pools that differ in the face with a serial number.

## Main results

* `Press.drawFace_sameBut` — the others are drawn alike while it is being drawn.
-/

namespace CardPress

open Generation

/-- Pools with the same templates apart from the one with a serial number. None of the others
inherits from that one: all of them are composed as before. -/
structure TemplatePool.SameBut (pool : TemplatePool) (serial : ℕ) (pool' : TemplatePool) :
    Prop where
  absent : ∀ {label}, pool.lookup label = none → pool'.lookup label = none
  own : ∀ {label template}, pool.lookup label = some template → template.serial = serial →
    ∃ template', pool'.lookup label = some template' ∧ template'.serial = serial
  other : ∀ {label template}, pool.lookup label = some template → template.serial ≠ serial →
    pool'.lookup label = some template ∧ pool'.compose template = pool.compose template

theorem TemplatePool.sameBut_self (pool : TemplatePool) (serial : ℕ) : pool.SameBut serial pool :=
  ⟨id, fun h hserial => ⟨_, h, hserial⟩, fun h _ => ⟨h, rfl⟩⟩

namespace Press

variable {press : Press} {pool' : TemplatePool} {serial : ℕ}
  (hpool : press.pool.SameBut serial pool')
  {lineage lineage' : Lineage} (hmarks : lineage.map Scope.mark = lineage'.map Scope.mark)
  (hdrawn : ∃ mark ∈ lineage.map Scope.mark, mark.1 = serial)

include hpool hmarks hdrawn

/-- While the face in which the pools differ is being drawn, asking for templates comes to the same
if drawing the others does. -/
theorem request_sameBut {draw draw' : Lineage → CardFace → Generation (Option Image)}
    (hdraw : ∀ label template, press.pool.lookup label = some template →
      pool'.compose template = press.pool.compose template → lineage.isDrawing template = false →
      draw lineage template = draw' lineage' template) :
    press.request draw lineage = (press.withPool pool').request draw' lineage' := by
  funext label
  rw [request, request, withPool]
  cases hl : press.pool.lookup label with
  | none => rw [hpool.absent hl]
  | some template =>
    by_cases hserial : template.serial = serial
    · -- The face itself is not drawn again.
      obtain ⟨template', hl', hserial'⟩ := hpool.own hl hserial
      have hdrawing (face : CardFace) (hface : face.serial = serial) :
          lineage.isDrawing face = true := by
        obtain ⟨mark, hmark, rfl⟩ := hdrawn
        rw [Lineage.isDrawing_eq_any, hface]
        exact List.any_eq_true.2 ⟨mark, hmark, beq_self_eq_true _⟩
      have hlabel : template.label = template'.label :=
        (press.pool.label_eq label template hl).trans (pool'.label_eq label template' hl').symm
      rw [hl']
      dsimp only
      rw [← Lineage.isDrawing_eq_of_marks hmarks, hdrawing template hserial,
        hdrawing template' hserial', Lineage.labels_eq_of_marks hmarks, displayLabel_congr hlabel]
      rfl
    · obtain ⟨hl', hcompose⟩ := hpool.other hl hserial
      rw [hl']
      dsimp only
      rw [← Lineage.isDrawing_eq_of_marks hmarks, Lineage.labels_eq_of_marks hmarks]
      cases hd : lineage.isDrawing template with
      | true => rfl
      | false => exact hdraw label template hl hcompose hd

variable (hc : Capabilities.standard = .ok press.capabilities)

include hc

/-- While it is being drawn, the others are drawn alike. -/
theorem drawFace_sameBut
    (hparent : lineage.head?.map Scope.snapshot = lineage'.head?.map Scope.snapshot)
    {face : CardFace} (hcompose : pool'.compose face = press.pool.compose face) :
    press.drawFace lineage face = (press.withPool pool').drawFace lineage' face := by
  induction hn : (press.idle (active lineage face)).length using Nat.strong_induction_on
    generalizing lineage lineage' face with
  | _ n ih =>
    have hpress := agree_of_storing hc eq_storing eq_keepsGlobal
    refine agree_eq_iff.1 (agreeUnless_drawFace_of_steps eq_steady.toDrafting
      (.inr hcompose.symm) fun composition => ?_).agree
    intro inner inner' scene scene' size
    have hmarks' : inner.map Scope.mark = inner'.map Scope.mark := by
      simp [inner, inner', hmarks]
    have hdrawn' : ∃ mark ∈ inner.map Scope.mark, mark.1 = serial := by
      obtain ⟨mark, hmark, hserial⟩ := hdrawn
      exact ⟨mark, List.mem_cons_of_mem _ hmark, hserial⟩
    have hrequest : press.request press.drawFace inner =
        (press.withPool pool').request (press.withPool pool').drawFace inner' := by
      refine request_sameBut hpool hmarks' hdrawn' fun label template hl ht hd => ?_
      have hlt : (press.idle (template :: active lineage face)).length < n :=
        hn ▸ length_idle_cons hl ((any_active _ _ _ composition).trans hd)
      exact ih _ hlt hmarks' hdrawn' rfl ht rfl
    have hscene : Scene.Agree Eq scene scene' := by
      refine agree_scene hpress.resolvers ⟨rfl, rfl, hparent, fun _ => ?_⟩
      rw [hrequest]
      exact agree_eq_iff.2 rfl
    exact agreeUnless_drawSteps Fault.keptInSteps_false hscene.unless eq_steady.toRunning
      (hpress.steps.mono fun _ _ hxy params canvas => (hxy _ _ hscene params canvas).unless) size

end Press

end CardPress
