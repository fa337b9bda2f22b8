import CardPress.Proofs.Deck.Validation
import CardPress.Proofs.Generation.Alarmed

/-!
# What validating a deck rules out

If `validate` finds no fault in any face, no face of the deck fails to be composed, be it drawn for
its own sake or within others. So every face that fails does so in a step, and where the cause is a
template, an expression has asked for it.

## Main definitions

* `Press.Explained` — a fault whose root cause, if it is a template, was asked for.

## Main results

* `Deck.generateAll_of_validate` — what may still fail when a deck is drawn that validates without
  fault.
-/

namespace CardPress

open Generation

theorem Fault.rootCause_of_isPlain {fault : Fault} (h : fault.IsPlain) :
    fault.rootCause = fault := by
  cases fault with
  | step => exact h.elim
  | _ => rfl

/-- Faults with plain root causes are all plain ones and those in steps. -/
theorem Fault.inclusive_rootCause : Fault.Inclusive fun fault => fault.rootCause.IsPlain where
  plain := fun h => by rwa [Fault.rootCause_of_isPlain h]
  inStep := id

namespace Press

/-- If the root cause of a fault is a template, the drawing of a face has led to some faces being
drawn within one another, the last of which has asked for it: there is none with that label, or it
is one of them. -/
structure Explained (press : Press) (start : CardFace) (fault : Fault) : Prop where
  unknown : ∀ label, fault.rootCause = .unknownTemplate label → press.pool.lookup label = none
  cycle : ∀ chain, fault.rootCause = .templateCycle chain →
    ∃ lineage label template, press.Nested start lineage ∧
      press.pool.lookup label = some template ∧ lineage.isDrawing template = true ∧
      chain = lineage.labels ++ [template.displayLabel]

variable {press : Press} {start : CardFace}

theorem explained_of_isPlain {fault : Fault} (h : fault.IsPlain) :
    press.Explained start fault := by
  constructor
  · intro label hlabel
    rw [Fault.rootCause_of_isPlain h] at hlabel
    rw [hlabel] at h
    exact h.elim
  · intro chain hchain
    rw [Fault.rootCause_of_isPlain h] at hchain
    rw [hchain] at h
    exact h.elim

theorem inclusive_explained (press : Press) (start : CardFace) :
    Fault.Inclusive (press.Explained start) where
  plain := explained_of_isPlain
  inStep := fun h => ⟨h.unknown, h.cycle⟩

theorem explained_unknownTemplate {label : String} (h : press.pool.lookup label = none) :
    press.Explained start (.unknownTemplate label) where
  unknown := by
    rintro _ ⟨⟩
    exact h
  cycle := by
    rintro _ ⟨⟩

theorem explained_templateCycle {lineage : Lineage} {label : String} {template : CardFace}
    (hlineage : press.Nested start lineage) (hl : press.pool.lookup label = some template)
    (hd : lineage.isDrawing template = true) :
    press.Explained start (.templateCycle (lineage.labels ++ [template.displayLabel])) where
  unknown := by
    rintro _ ⟨⟩
  cycle := by
    rintro _ ⟨⟩
    exact ⟨lineage, label, template, hlineage, hl, hd, rfl⟩

/-- A face that can be composed only fails in a step. -/
theorem turn_failed (press : Press) (hc : Capabilities.standard = .ok press.capabilities)
    {face : CardFace} {composition : Composition} (h : press.pool.compose face = .ok composition)
    {run : Run} {error : String} (hfailed : (press.turn face run).1 = .failed error) :
    ∃ index kind source, (press.generate face run).1 =
      .error (.step face.label index kind source) ∧
      error = (Fault.step face.label index kind source).message := by
  rw [turn] at hfailed
  split at hfailed
  · cases hfailed
  · cases hsize : composition.size with
    | none =>
      rw [outcome_of_unsized h hsize] at hfailed
      cases hfailed
    | some size =>
      have hcases := outcome_cases hc h hsize run
      rcases hcases with hdrawn | hdrawn | ⟨fault, hstep, hfault, hdrawn⟩
      · cases hdrawn.symm.trans hfailed
      · cases hdrawn.symm.trans hfailed
      · obtain ⟨index, kind, source, -, rfl⟩ := hstep
        cases hdrawn.symm.trans hfailed
        exact ⟨index, kind, source, hfault, rfl⟩

section Composed

variable (hpool : ∀ label template, press.pool.lookup label = some template →
    ∃ composition, press.pool.compose template = .ok composition)
  (hface : ∃ composition, press.pool.compose start = .ok composition)

include hpool hface

/-- Where all can be composed, every fault about a template was asked for. -/
theorem raises_drawFace_explained (hc : Capabilities.standard = .ok press.capabilities) :
    Raises (press.Explained start) (press.drawFace [] start) := by
  rw [← drawAlarmed_eq hpool hface throw []]
  obtain ⟨composition, h⟩ := hface
  have hE := inclusive_explained press start
  exact raises_drawAlarmed hpool hE (raises_standard_resolvers hc hE) (raises_standard_steps hc hE)
    (fun _ _ _ hl => Ends.throw (explained_unknownTemplate hl))
    (fun _ _ _ hlineage hl hd => Ends.throw (explained_templateCycle hlineage hl hd)) h (.start h)

/-- Where all can be composed and nothing about templates is raised by asking for them, nothing
about templates is raised at all. -/
theorem raises_drawAlarmed_isPlain (hc : Capabilities.standard = .ok press.capabilities)
    {request : Fault → Generation (Option Image)}
    (hrequest : ∀ fault, Raises Fault.IsPlain (request fault)) :
    Raises (fun fault => fault.rootCause.IsPlain)
      (press.drawAlarmed ⟨throw, request⟩ [] start) := by
  have hplain (fault : Fault) : Raises (fun fault => fault.rootCause.IsPlain) (request fault) :=
    (hrequest fault).mono (fun _ => id) fun _ => Fault.inclusive_rootCause.plain
  obtain ⟨composition, h⟩ := hface
  have hE := Fault.inclusive_rootCause
  exact raises_drawAlarmed hpool hE (raises_standard_resolvers hc hE) (raises_standard_steps hc hE)
    (fun _ _ _ _ => hplain _) (fun _ _ _ _ _ _ => hplain _) h (.start h)

end Composed

/-- A press with another expression in place of the one that has templates drawn. -/
def withoutTemplates (press : Press) (resolver : Resolver) : Press :=
  { press with
    capabilities.resolvers :=
      press.capabilities.resolvers.replace "image_from_template" resolver }

/-- With an expression in its place that raises nothing about templates, no fault is about one. -/
theorem raises_drawFace_withoutTemplates (press : Press)
    (hc : Capabilities.standard = .ok press.capabilities) {resolver : Resolver}
    (hresolver : Resolver.Raises (fun fault => fault.rootCause.IsPlain) resolver)
    (hface : ∃ composition, press.pool.compose start = .ok composition) (parents : Lineage) :
    Raises (fun fault => fault.rootCause.IsPlain)
      ((press.withoutTemplates resolver).drawFace parents start) := by
  have hE := Fault.inclusive_rootCause
  have hresolvers (setting : Setting) (tag : String) (other : Resolver)
      (h : (press.withoutTemplates resolver).capabilities.resolvers.get? tag = some other) :
      other.RaisesIn (fun fault => fault.rootCause.IsPlain) setting := by
    intro resolve hresolve params
    have h := (Registry.get?_replace _ _ _ tag).symm.trans h
    split at h
    · cases h
      exact hresolver _ hresolve params
    · next hne =>
      rcases Expression.standard_raises hE _ (Capabilities.mem_standard_resolvers hc h) with
        htag | hraises
      · exact absurd htag hne
      · exact hraises _ hresolve params
  obtain ⟨composition, h⟩ := hface
  have h : (press.withoutTemplates resolver).pool.compose start = .ok composition := h
  rw [drawFace_eq, drawOnce_of_compose h]
  cases composition.size with
  | none => exact Raises.pure none
  | some size =>
    exact raises_drawSteps_of_setting hE (hresolvers _) (raises_standard_steps hc hE) size

end Press

namespace Deck

variable {d : Deck} {pool : TemplatePool} {summaries : List FaceSummary}

/-- A face without fault in its summary can be composed. -/
theorem exists_compose_of_validate (hpool : d.pool = .ok pool) (hv : d.validate = .ok summaries)
    (hs : ∀ summary ∈ summaries, summary.error = none) {face : CardFace} (hface : face ∈ d.faces) :
    ∃ composition, pool.compose face = .ok composition := by
  obtain ⟨i, hi⟩ := List.getElem?_of_mem hface
  rw [getElem?_faces] at hi
  obtain ⟨definition, hdefinition, rfl⟩ := Option.map_eq_some_iff.1 hi
  have hsummary := getElem?_validate hpool hv i
  rw [hdefinition, Option.map_some] at hsummary
  have herror := hs _ (List.mem_of_getElem? hsummary)
  cases h : pool.compose (definition.face i) with
  | ok composition => exact ⟨composition, rfl⟩
  | error fault => simp [summary, h] at herror

/-- Let a deck validate without fault in any face. Then there is a report, and while the deck is
drawn, no face fails to be composed, neither one of the deck nor one that is drawn within others: it
makes no difference what would be done then. Every face that fails does so in one of its steps. If a
template is the root cause, it was asked for, and it is not there or is being drawn already. If
asking for such templates raises something else, no root cause is a template; nor is it with another
expression in place of the one that asks for them. -/
theorem generateAll_of_validate {capabilities : Capabilities}
    (hc : Capabilities.standard = .ok capabilities) (hv : d.validate = .ok summaries)
    (hs : ∀ summary ∈ summaries, summary.error = none) (config : Config) (run : Run) :
    ∃ pool report, d.pool = .ok pool ∧
      (d.generateAll capabilities config run).1 = .ok report ∧
      let press : Press := ⟨capabilities, pool, config⟩
      (∀ face ∈ d.faces, (∃ composition, pool.compose face = .ok composition) ∧
        ∀ alarm parents, press.drawAlarmed ⟨alarm, throw⟩ parents face =
          press.drawFace parents face) ∧
      (∀ i face entry error, d.faces[i]? = some face → report.faces[i]? = some entry →
        entry.outcome = .failed error → ∃ index kind source,
          (press.generate face (press.runAfter (d.items.take i) (d.opening run))).1 =
            .error (.step face.label index kind source) ∧
          error = (Fault.step face.label index kind source).message) ∧
      (∀ face ∈ d.faces, ∀ run fault, (press.generate face run).1 = .error fault →
        press.Explained face fault) ∧
      (∀ request : Fault → Generation (Option Image),
        (∀ fault, Raises Fault.IsPlain (request fault)) →
        ∀ face ∈ d.faces, ∀ (run : Run) (fault : Fault),
          (run.perform (press.drawAlarmed ⟨throw, request⟩ [] face)).1 = .error fault →
          fault.rootCause.IsPlain) ∧
      ∀ resolver, Resolver.Raises (fun fault => fault.rootCause.IsPlain) resolver →
        ∀ face ∈ d.faces, ∀ run fault,
          ((press.withoutTemplates resolver).generate face run).1 = .error fault →
          fault.rootCause.IsPlain := by
  obtain ⟨pool, hpool, -⟩ := bind_eq_ok_iff.1 hv
  have hdeck {face : CardFace} (hface : face ∈ d.faces) :
      ∃ composition, pool.compose face = .ok composition :=
    exists_compose_of_validate hpool hv hs hface
  have htemplates (label : String) (template : CardFace) (hl : pool.lookup label = some template) :
      ∃ composition, pool.compose template = .ok composition :=
    hdeck ((lookup_pool hpool label template).1 hl).1
  refine ⟨pool, _, hpool, generateAll_of_pool hpool capabilities config run, ?_⟩
  intro press
  refine ⟨?_, ?_, ?_, ?_, ?_⟩
  · intro face hface
    refine ⟨hdeck hface, fun alarm parents => ?_⟩
    exact Press.drawAlarmed_eq htemplates (hdeck hface) alarm parents
  · intro i face entry error hi hentry hfailed
    obtain ⟨composition, h⟩ := hdeck (List.mem_of_getElem? hi)
    rw [getElem?_faces] at hi
    obtain ⟨definition, hdefinition, rfl⟩ := Option.map_eq_some_iff.1 hi
    rw [getElem?_reportFaces_items, hdefinition, Option.map_some, Option.some.injEq] at hentry
    rw [← hentry] at hfailed
    exact press.turn_failed hc h hfailed
  · intro face hface run fault hfault
    exact ((press.raises_drawFace_explained htemplates (hdeck hface) hc).perform run).2 fault hfault
  · intro request hrequest face hface run fault hfault
    exact ((Press.raises_drawAlarmed_isPlain htemplates (hdeck hface) hc hrequest).perform run).2
      fault hfault
  · intro resolver hresolver face hface run fault hfault
    exact ((press.raises_drawFace_withoutTemplates hc hresolver (hdeck hface) []).perform run).2
      fault hfault

/-! ## A template that is asked for in vain -/

/-- A template of one pixel. -/
def base : CardDefinition :=
  { CardDefinition.empty with label := some "base", size := some ⟨1, 1⟩ }

/-- A face with a step that pastes a template. -/
def pasting (label : String) : CardDefinition :=
  { CardDefinition.empty with
    template := some "base"
    steps := [.mapping <| Dict.ofList [
      (typeKey, .string "paste_image"),
      ("image", .mapping <| Dict.ofList [
        (Value.deferredKey, .string "image_from_template"), ("label", .string label)])]] }

/-- A face that asks for a template that is not there. -/
def asking : Deck where
  definitions := [base, pasting "ghost"]

set_option maxRecDepth 10000 in
theorem generateAll_of_validate_asking :
    Capabilities.standard = .ok Capabilities.table ∧ ∃ summaries,
      asking.validate = .ok summaries ∧ (∀ summary ∈ summaries, summary.error = none) ∧
      ∃ pool report, asking.pool = .ok pool ∧
        (asking.generateAll Capabilities.table .standard (.start .empty ∅)).1 = .ok report ∧
        pool.lookup "ghost" = none := by
  have hpool : asking.pool = .ok (TemplatePool.empty.insert "base" (base.face 0) rfl) := rfl
  generalize hbase : TemplatePool.empty.insert "base" (base.face 0) rfl = pool at hpool
  obtain ⟨summaries, hvalidate⟩ : ∃ summaries, asking.validate = .ok summaries :=
    ⟨_, validate_of_pool hpool⟩
  have herrors : ∀ entry ∈ summaries, entry.error = none := by
    intro entry hentry
    obtain ⟨i, hi⟩ := List.mem_iff_getElem?.1 hentry
    rw [getElem?_validate hpool hvalidate] at hi
    subst hbase
    rcases i with _ | _ | i
    · cases hi
      cbv
    · cases hi
      cbv
    · cases hi
  obtain ⟨pool', report, hpool', hreport, -, -, hexplained, -⟩ :=
    generateAll_of_validate Capabilities.standard_eq_table hvalidate herrors .standard
      (.start .empty ∅)
  cases hpool.symm.trans hpool'
  refine ⟨Capabilities.standard_eq_table, _, hvalidate, herrors, _, report, hpool, hreport, ?_⟩
  have hfault : ((Press.ofPool pool).generate ((pasting "ghost").face 1) (.start .empty ∅)).1 =
      .error (.step none 0 "paste_image" (.unknownTemplate "ghost")) := by
    subst hbase
    cbv
  exact (hexplained _ (by simp [asking, faces]) _ _ hfault).unknown "ghost" rfl

end Deck

end CardPress
