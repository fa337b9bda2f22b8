import CardPress.Proofs.Composition.Serials
import CardPress.Proofs.Generation.Agreement

/-!
# Adding templates

Templates of a pool are looked up by their labels, and a missing one is a fault that nothing takes
back. So a drawing that has not ended with such a fault has found every label it looked up, in the
compositions of faces as in their expressions, and a pool that has more templates would not have
changed it.

## Main definitions

* `TemplatePool.Includes` — a pool that has all the templates of another one.
* `Fault.IsMissing` — the root cause of a fault is a missing template.

## Main results

* `TemplatePool.compose_of_includes` — a face is composed as in the smaller pool unless a template
  was missing there.
* `Press.generate_withPool` — so is it drawn.
-/

namespace CardPress

open Generation

/-- The root cause is a template that the pool does not have. -/
def Fault.IsMissing (fault : Fault) : Prop :=
  ∃ label, fault.rootCause = .unknownTemplate label

theorem Fault.isMissing_unknownTemplate (label : String) : (unknownTemplate label).IsMissing :=
  ⟨label, rfl⟩

theorem Fault.keptInSteps_isMissing : Fault.KeptInSteps IsMissing :=
  fun _ _ _ _ h => h

namespace TemplatePool

/-- The templates of another pool are in this one under their labels. -/
def Includes (pool' pool : TemplatePool) : Prop :=
  ∀ label face, pool.lookup label = some face → pool'.lookup label = some face

variable {pool pool' : TemplatePool}

/-- One more template does not replace any. -/
theorem includes_insert {label : String} {face : CardFace} (hface : face.label = some label)
    (hnew : pool.lookup label = none) : (pool.insert label face hface).Includes pool := by
  intro other template hl
  have hne : other ≠ label := by
    rintro rfl
    rw [hnew] at hl
    cases hl
  rw [lookup_insert, if_neg hne, hl]

variable (h : pool'.Includes pool)

include h

theorem lookup_of_includes (label : String) :
    pool.lookup label = none ∧ (Fault.unknownTemplate label).IsMissing ∨
      pool.lookup label = pool'.lookup label := by
  cases hl : pool.lookup label with
  | none => exact .inl ⟨rfl, Fault.isMissing_unknownTemplate label⟩
  | some face => exact .inr (h label face hl).symm

/-- Labels are completed as in the smaller pool, unless one is missing there. -/
theorem expand_of_includes (path listed : List String) (done : Completed) :
    (∃ label, pool.expand path done listed = .error (.unknownTemplate label)) ∨
      pool'.expand path done listed = pool.expand path done listed := by
  fun_induction expand pool path done listed with
  | case1 path done => exact .inr (by rw [expand])
  | case2 path done label rest hc => exact .inr (by rw [expand, dif_pos hc])
  | case3 path done label rest hc hm ih =>
    rw [expand, dif_neg hc, if_pos hm]
    exact ih
  | case4 path done label rest hc hm hl => exact .inl ⟨label, rfl⟩
  | case5 path done label rest hc hm face hl ihTemplates ihRest =>
    rw [expand_cons_of_lookup hc hm (h label face hl)]
    rcases ihTemplates with ⟨missing, hmissing⟩ | hsame
    · exact .inl ⟨missing, by rw [hmissing]; rfl⟩
    · rw [hsame]
      cases hinner : pool.expand (path ++ [label]) done face.templates with
      | error fault => exact .inr rfl
      | ok inner => exact ihRest inner

/-- A face is composed as in the smaller pool, or fails to be there as a template is missing. -/
theorem compose_of_includes (face : CardFace) :
    (∃ fault, pool.compose face = .error fault ∧ fault.IsMissing) ∨
      pool.compose face = pool'.compose face := by
  rw [compose, compose]
  rcases expand_of_includes h face.label.toList face.templates [] with ⟨label, hlabel⟩ | hsame
  · exact .inl ⟨_, by rw [hlabel]; rfl, Fault.isMissing_unknownTemplate label⟩
  · exact .inr (by rw [hsame])

end TemplatePool

namespace Press

section Adding

variable {press : Press} (hc : Capabilities.standard = .ok press.capabilities)
  {pool : TemplatePool} (h : pool.Includes press.pool)

include hc h

/-- With a larger pool drawing goes alike, unless a template was missing. -/
theorem drawFace_withPool (parents : Lineage) (face : CardFace) :
    Generation.AgreeUnless Fault.IsMissing Eq (press.drawFace parents face)
      ((press.withPool pool).drawFace parents face) := by
  refine agreeUnless_drawFace eq_steady.toDrafting ?_ ?_ ?_ ?_ rfl rfl face
  · exact TemplatePool.lookup_of_includes h
  · exact TemplatePool.compose_of_includes h
  · rfl
  intro setting setting' hconfig hconfig' hsetting size
  have hlogs : setting.config.logsAll = setting'.config.logsAll := by
    rw [hconfig, hconfig', withPool]
  have hscene := agreeUnless_scene hsetting fun depth hinner =>
    Capabilities.agreeUnless_resolvers hc hinner hlogs eq_steady.toQuiet
  exact agreeUnless_drawSteps Fault.keptInSteps_isMissing hscene eq_steady.toRunning
    (Capabilities.agreeUnless_steps hc hscene hlogs eq_storing eq_keepsGlobal) size

/-- Let drawing a face end in anything but a fault for want of a template. Then with a pool that has
more templates the same comes of it, be it an image, nothing or a fault, and the run goes on the
same. -/
theorem generate_withPool (face : CardFace) (run : Run)
    (hfound : ∀ fault label, (press.generate face run).1 = .error fault →
      fault.rootCause ≠ .unknownTemplate label) :
    (press.withPool pool).generate face run = press.generate face run := by
  rcases (drawFace_withPool hc h [] face).perform (fun _ => rfl) run with
    ⟨fault, hfault, label, hlabel⟩ | ⟨hresult, s, t, rfl, hs, ht⟩
  · exact absurd hlabel (hfound fault label hfault)
  · exact Prod.ext hresult.symm (ht.trans hs.symm)

end Adding

/-- A template of one pixel. -/
def sheet (serial : Nat) (label : String) : CardFace :=
  { CardFace.empty serial with
    label := some label
    size := some ⟨1, 1⟩ }

/-- A face that inherits from a template and asks for the one it is. -/
def entangled : CardFace :=
  { CardFace.empty 2 with
    label := some "entangled"
    templates := ["plain"]
    steps := [.mapping <| Dict.ofList [
      (typeKey, .string "paste_image"), ("image", .mapping <| Dict.ofList [
        (Value.deferredKey, .string "image_from_template"), ("label", .string "entangled")])]] }

/-- The press that has the two. -/
def knotted : Press :=
  .ofPool <|
    (TemplatePool.empty.insert "plain" (sheet 0 "plain") rfl).insert "entangled" entangled rfl

/-- Its pool with a template that it did not have. -/
def knottedAndSpare : TemplatePool :=
  knotted.pool.insert "spare" (sheet 1 "spare") rfl

set_option maxRecDepth 10000 in
theorem generate_withPool_entangled :
    Capabilities.standard = .ok knotted.capabilities ∧ knottedAndSpare.Includes knotted.pool ∧
      (knotted.withPool knottedAndSpare).generate entangled (.start .empty ∅) =
        knotted.generate entangled (.start .empty ∅) ∧
      ∃ fault, (knotted.generate entangled (.start .empty ∅)).1 = .error fault ∧
        fault.rootCause = .templateCycle ["entangled", "entangled"] := by
  have hlarger : knottedAndSpare.Includes knotted.pool := TemplatePool.includes_insert rfl rfl
  have hfault : (knotted.generate entangled (.start .empty ∅)).1 =
      .error (.step (some "entangled") 0 "paste_image"
        (.templateCycle ["entangled", "entangled"])) := by
    cbv
  refine ⟨Capabilities.standard_eq_table, hlarger, ?_, _, hfault, rfl⟩
  refine generate_withPool Capabilities.standard_eq_table hlarger entangled (.start .empty ∅) ?_
  intro fault label h
  rw [hfault] at h
  cases h
  exact Fault.noConfusion

end Press

end CardPress
