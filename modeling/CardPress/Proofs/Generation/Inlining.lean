import CardPress.Proofs.Generation.View

/-!
# Inheriting is inlining

A face that inherits steps and a size from templates draws the same as one that declares them itself
and inherits nothing, even if there are no templates at all. Only two expressions could tell them
apart: the one that gives the attributes of the face, and the one that has templates drawn.

## Main definitions

* `Capabilities.detached` — capabilities without these two expressions.

## Main results

* `Press.generate_inlined` — a face and the one with its inheritance inlined give the same.
-/

namespace CardPress

open Generation

/-- Without the expressions for the attributes of a face and for its templates. -/
def Capabilities.detached (c : Capabilities) : Capabilities :=
  { c with resolvers := (c.resolvers.remove "self").remove "image_from_template" }

/-- Such capabilities see no more than the bare face. -/
theorem Capabilities.detached_within_bare {c : Capabilities} (hc : standard = .ok c)
    (tag : String) (resolver : Resolver) (h : c.detached.resolvers.get? tag = some resolver) :
    resolver.Within .bare := by
  rw [detached, Registry.get?_remove] at h
  split at h
  · cases h
  · next htemplate =>
    rw [Registry.get?_remove] at h
    split at h
    · cases h
    · next hself =>
      rcases Expression.standard_within_bare _ (mem_standard_resolvers hc h) with
        htag | htag | hwithin
      · exact absurd htag hself
      · exact absurd htag htemplate
      · exact hwithin

/-- A face without templates is its own composition, whatever the pool. -/
theorem TemplatePool.compose_of_templates_nil (pool : TemplatePool) {face : CardFace}
    (h : face.templates = []) : pool.compose face = .ok ⟨[], face.steps, face.size⟩ := by
  have hsize : effectiveSize face [] = face.size := by
    rw [effectiveSize, List.foldl_nil, settle]
    cases face.size with
    | some size => rfl
    | none => simp [h]
  rw [compose, h, expand]
  show Except.ok _ = Except.ok _
  rw [hsize]
  rfl

namespace Press

variable {capabilities : Capabilities} (hc : Capabilities.standard = .ok capabilities)

include hc

/-- What comes of the steps of a face does not depend on what is hidden of it. -/
theorem drawSteps_detached {setting setting' : Setting}
    (h : View.bare.see setting = View.bare.see setting') (size : Size) :
    drawSteps capabilities.detached.steps (scene capabilities.detached.resolvers setting) size =
      drawSteps capabilities.detached.steps (scene capabilities.detached.resolvers setting')
        size := by
  have hresolvers := Capabilities.detached_within_bare hc
  have hsteps (tag : String) (handler : StepHandler)
      (hget : capabilities.detached.steps.get? tag = some handler) : handler.Within .bare :=
    Step.standard_within .bare _ (Capabilities.mem_standard_steps hc hget)
  exact drawSteps_scene_congr hsteps hresolvers (fun _ => rfl) h size

/-- Let a face be composed, and let another one have its label and declare the steps and the size of
the composition as its own, without templates. Then both give the same from every run, the one in
its pool and the other one in an empty pool: the same image, nothing or fault, and the same run
afterwards. -/
theorem generate_inlined (pool : TemplatePool) (config : Config) {face : CardFace}
    {composition : Composition} (h : pool.compose face = .ok composition) {flat : CardFace}
    (hlabel : flat.label = face.label) (htemplates : flat.templates = [])
    (hsize : flat.size = composition.size) (hsteps : flat.steps = composition.steps) (run : Run) :
    Press.generate ⟨capabilities.detached, pool, config⟩ face run =
      Press.generate ⟨capabilities.detached, .empty, config⟩ flat run := by
  have hflat : TemplatePool.empty.compose flat = .ok ⟨[], composition.steps, composition.size⟩ := by
    rw [TemplatePool.compose_of_templates_nil _ htemplates, hsize, hsteps]
  refine congrArg run.perform ?_
  rw [drawFace_eq, drawFace_eq, drawOnce_of_compose h, drawOnce_of_compose hflat]
  cases hcomposed : composition.size with
  | none => rfl
  | some size =>
    refine congrArg inNewDraft (drawSteps_detached hc ?_ size)
    simp [View.bare, hlabel, hcomposed]

omit hc

/-- A template with a size and a step that binds a key. -/
def marker : CardFace :=
  { CardFace.empty 0 with
    label := some "marker"
    size := some ⟨1, 1⟩
    steps := [.mapping <| Dict.ofList [
      (typeKey, .string "write_to_cache"), ("key", .string "marked"), ("value", .bool true),
      ("is_global", .bool true)]] }

def markers : TemplatePool :=
  TemplatePool.empty.insert "marker" marker rfl

/-- A face that inherits the size and the step. -/
def marked : CardFace :=
  { CardFace.empty 1 with templates := ["marker"] }

theorem generate_inlined_marked :
    Capabilities.standard = .ok Capabilities.table ∧
      markers.compose marked = .ok ⟨[marker], marker.steps, marker.size⟩ ∧
      Press.generate ⟨Capabilities.table.detached, markers, .standard⟩ marked
          (.start .empty ∅) =
        Press.generate ⟨Capabilities.table.detached, .empty, .standard⟩
          { marker with label := none } (.start .empty ∅) := by
  have hcompose : markers.compose marked = .ok ⟨[marker], marker.steps, marker.size⟩ := by
    cbv
  refine ⟨Capabilities.standard_eq_table, hcompose, ?_⟩
  refine generate_inlined Capabilities.standard_eq_table markers .standard hcompose ?_ ?_ ?_ ?_ _
  all_goals rfl

end Press

end CardPress
