import CardPress.Proofs.Generation.Bounds
import CardPress.Proofs.Generation.View

/-!
# Drawing without serial numbers

Serial numbers are there to tell faces apart, so that none is drawn within itself. If they tell the
faces of two pools apart as labels do, and the pools have the same faces otherwise, the same is
drawn.

## Main definitions

* `TemplatePool.NumberedIn` — the serial numbers of some faces tell those of a pool apart.
* `Lineage.Alike` — lineages of the same faces but for serial numbers.

## Main results

* `Press.drawFace_alike` — drawing does not depend on serial numbers.
-/

namespace CardPress

open Generation

/-- Among some faces, those of the pool are told by their serial numbers as well as by their
labels. -/
structure TemplatePool.NumberedIn (pool : TemplatePool) (faces : List CardFace) : Prop where
  mem : ∀ {label template}, pool.lookup label = some template → template ∈ faces
  serial_iff : ∀ {face label template}, face ∈ faces → pool.lookup label = some template →
    (face.serial = template.serial ↔ face.label = some label)

/-- Scopes of one face among some and among others, which may be numbered in another way. -/
structure Scope.Alike (faces faces' : List CardFace) (scope scope' : Scope) : Prop where
  mem : scope.face ∈ faces
  mem' : scope'.face ∈ faces'
  unnumbered_eq : scope.unnumbered = scope'.unnumbered

/-- Lineages of such scopes. -/
abbrev Lineage.Alike (faces faces' : List CardFace) : Lineage → Lineage → Prop :=
  List.Forall₂ (Scope.Alike faces faces')

variable {faces faces' : List CardFace}

theorem Scope.Alike.label_eq {scope scope' : Scope} (h : Scope.Alike faces faces' scope scope') :
    scope.face.label = scope'.face.label :=
  CardFace.label_eq_of_unnumbered (congrArg Scope.face h.unnumbered_eq)

namespace Lineage

variable {lineage lineage' : Lineage} (h : Lineage.Alike faces faces' lineage lineage')

include h

theorem Alike.map_unnumbered :
    lineage.map Scope.unnumbered = lineage'.map Scope.unnumbered := by
  induction h with
  | nil => rfl
  | cons hscope _ ih => rw [List.map_cons, List.map_cons, hscope.unnumbered_eq, ih]

theorem Alike.labels_eq : lineage.labels = lineage'.labels := by
  rw [labels, labels]
  refine congrArg List.reverse ?_
  induction h with
  | nil => rfl
  | cons hscope _ ih =>
    rw [List.map_cons, List.map_cons, ih, displayLabel_congr hscope.label_eq]

/-- The same templates are being drawn. -/
theorem Alike.isDrawing_eq {pool pool' : TemplatePool} (hpool : pool.NumberedIn faces)
    (hpool' : pool'.NumberedIn faces') {label : String} {template template' : CardFace}
    (hl : pool.lookup label = some template) (hl' : pool'.lookup label = some template') :
    lineage.isDrawing template = lineage'.isDrawing template' := by
  induction h with
  | nil => rfl
  | @cons scope scope' rest rest' hscope _ ih =>
    have hserial : (scope.face.serial == template.serial) =
        (scope'.face.serial == template'.serial) := by
      rw [Bool.eq_iff_iff, beq_iff_eq, beq_iff_eq, hpool.serial_iff hscope.mem hl,
        hpool'.serial_iff hscope.mem' hl', hscope.label_eq]
    show (scope.face.serial == template.serial || Lineage.isDrawing rest template) =
      (scope'.face.serial == template'.serial || Lineage.isDrawing rest' template')
    rw [hserial, ih]

end Lineage

namespace Press

variable {press : Press}

/-- With the standard capabilities, what comes of the steps of a face does not depend on serial
numbers. -/
theorem drawSteps_unnumbered (hc : Capabilities.standard = .ok press.capabilities)
    {setting setting' : Setting} (h : View.unnumbered.see setting = View.unnumbered.see setting')
    (size : Size) :
    drawSteps press.capabilities.steps (scene press.capabilities.resolvers setting) size =
      drawSteps press.capabilities.steps (scene press.capabilities.resolvers setting') size :=
  drawSteps_scene_congr
    (fun _ _ hget => Step.standard_within .unnumbered _ (Capabilities.mem_standard_steps hc hget))
    (fun _ _ hget =>
      Expression.standard_within_unnumbered _ (Capabilities.mem_standard_resolvers hc hget))
    (fun _ => rfl) h size

section Alike

variable {pool' : TemplatePool} (h : press.pool.Alike pool')
  (hpool : press.pool.NumberedIn faces) (hpool' : pool'.NumberedIn faces')

include h hpool hpool'

/-- Asking for templates comes to the same if drawing them does. -/
theorem request_alike {lineage lineage' : Lineage}
    (hlineage : Lineage.Alike faces faces' lineage lineage')
    {draw draw' : Lineage → CardFace → Generation (Option Image)}
    (hdraw : ∀ label template template', press.pool.lookup label = some template →
      pool'.lookup label = some template' → template.unnumbered = template'.unnumbered →
      lineage.isDrawing template = false → draw lineage template = draw' lineage' template') :
    press.request draw lineage = (press.withPool pool').request draw' lineage' := by
  funext label
  rw [request, request, withPool]
  cases hl : press.pool.lookup label with
  | none => rw [h.lookup_eq_none hl]
  | some template =>
    obtain ⟨template', hl', htemplate⟩ := h.exists_lookup hl
    rw [hl']
    dsimp only
    rw [← hlineage.isDrawing_eq hpool hpool' hl hl', hlineage.labels_eq,
      displayLabel_congr (CardFace.label_eq_of_unnumbered htemplate)]
    cases hd : lineage.isDrawing template with
    | true => rfl
    | false => exact hdraw label template template' hl hl' htemplate.symm hd

/-- Serial numbers have no part in what is drawn, as long as they tell faces apart. -/
theorem drawFace_alike (hc : Capabilities.standard = .ok press.capabilities)
    {parents parents' : Lineage} (hparents : Lineage.Alike faces faces' parents parents')
    {face face' : CardFace} (hmem : face ∈ faces) (hmem' : face' ∈ faces')
    (hface : face.unnumbered = face'.unnumbered) :
    press.drawFace parents face = (press.withPool pool').drawFace parents' face' := by
  induction hn : (press.idle (active parents face)).length using Nat.strong_induction_on
    generalizing parents parents' face face' with
  | _ n ih =>
    rw [drawFace_eq, drawFace_eq]
    rcases TemplatePool.compose_alike h hface with
      ⟨fault, hx, hy⟩ | ⟨composition, composition', hx, hy, hcomposition⟩
    · rw [drawOnce, drawOnce, withPool, hx, hy]
      rfl
    · have hy : (press.withPool pool').pool.compose face' = .ok composition' := hy
      rw [drawOnce_of_compose hx, drawOnce_of_compose hy,
        ← Composition.size_eq_of_unnumbered hcomposition]
      cases composition.size with
      | none => rfl
      | some size =>
        have hscope : Scope.Alike faces faces' ⟨face, composition⟩ ⟨face', composition'⟩ :=
          ⟨hmem, hmem', by rw [Scope.unnumbered, Scope.unnumbered, hface, hcomposition]⟩
        have hlineage := List.Forall₂.cons hscope hparents
        have hrequest : press.request press.drawFace (⟨face, composition⟩ :: parents) =
            (press.withPool pool').request (press.withPool pool').drawFace
              (⟨face', composition'⟩ :: parents') := by
          refine request_alike h hpool hpool' hlineage fun label template template' hl hl' ht hd =>
            ?_
          have hlt : (press.idle (template :: active parents face)).length < n :=
            hn ▸ length_idle_cons hl ((any_active _ _ _ composition).trans hd)
          exact ih _ hlt hlineage (hpool.mem hl) (hpool'.mem hl') ht rfl
        refine congrArg inNewDraft (drawSteps_unnumbered hc ?_ size)
        simp only [View.unnumbered, hrequest, hscope.unnumbered_eq, hparents.map_unnumbered]
        rfl

end Alike

end Press

end CardPress
