import CardPress.Proofs.Composition.Order

/-!
# Compositions without serial numbers

Faces are inherited from by label, so serial numbers have no part in composing. Two pools with the
same faces, apart from their serial numbers, compose the same.

## Main definitions

* `CardFace.unnumbered`, `Composition.unnumbered` — without serial numbers.
* `TemplatePool.Alike` — pools with the same faces but for these.

## Main results

* `TemplatePool.compose_alike` — compositions in such pools.
-/

namespace CardPress

namespace CardFace

def unnumbered (face : CardFace) : CardFace :=
  { face with serial := 0 }

variable {face face' : CardFace} (h : face.unnumbered = face'.unnumbered)

include h

/-- Faces that are the same but for serial numbers have the same of everything else. -/
theorem eq_of_unnumbered {α : Type} (f : CardFace → α)
    (hf : ∀ face : CardFace, f face.unnumbered = f face) : f face = f face' := by
  rw [← hf face, h, hf]

theorem label_eq_of_unnumbered : face.label = face'.label :=
  eq_of_unnumbered h (·.label) fun _ => rfl

theorem templates_eq_of_unnumbered : face.templates = face'.templates :=
  eq_of_unnumbered h (·.templates) fun _ => rfl

end CardFace

def Composition.unnumbered (composition : Composition) : Composition :=
  { composition with templates := composition.templates.map CardFace.unnumbered }

theorem Composition.size_eq_of_unnumbered {composition composition' : Composition}
    (h : composition.unnumbered = composition'.unnumbered) :
    composition.size = composition'.size := by
  have hsize : composition.unnumbered.size = composition'.unnumbered.size := by rw [h]
  exact hsize

namespace TemplatePool

/-- Pools that have the same faces under the same labels, but for their serial numbers. -/
def Alike (pool pool' : TemplatePool) : Prop :=
  ∀ label, (pool.lookup label).map CardFace.unnumbered =
    (pool'.lookup label).map CardFace.unnumbered

namespace Completed

def unnumbered (done : Completed) : Completed :=
  done.map fun (label, face) => (label, face.unnumbered)

@[simp] theorem unnumbered_append (a b : Completed) :
    unnumbered (a ++ b) = unnumbered a ++ unnumbered b :=
  List.map_append

@[simp] theorem labelsOf_unnumbered (done : Completed) :
    labelsOf (unnumbered done) = labelsOf done := by
  simp [labelsOf, unnumbered, Function.comp_def]

end Completed

variable {pool pool' : TemplatePool}

theorem Alike.lookup_eq_none (h : pool.Alike pool') {label : String}
    (hl : pool.lookup label = none) : pool'.lookup label = none := by
  have hlabel := h label
  rw [hl] at hlabel
  exact Option.map_eq_none_iff.1 hlabel.symm

theorem Alike.exists_lookup (h : pool.Alike pool') {label : String} {face : CardFace}
    (hl : pool.lookup label = some face) :
    ∃ face', pool'.lookup label = some face' ∧ face'.unnumbered = face.unnumbered := by
  have hlabel := h label
  rw [hl] at hlabel
  exact Option.map_eq_some_iff.1 hlabel.symm

/-- A label that is new is completed after its own templates. -/
theorem expand_cons_of_lookup {path rest : List String} {done : Completed} {label : String}
    {face : CardFace} (hp : ¬path.contains label) (hm : ¬(done.lookup label).isSome)
    (hl : pool.lookup label = some face) :
    pool.expand path done (label :: rest) = (do
      let inner ← pool.expand (path ++ [label]) done face.templates
      pool.expand path (inner ++ [(label, face)]) rest) := by
  rw [expand, dif_neg hp, if_neg hm]
  split
  · next hnone => cases hl.symm.trans hnone
  · next other hother =>
    cases hl.symm.trans hother
    rfl

/-- Expanding labels completes the same faces. -/
theorem expand_alike (h : pool.Alike pool') (path listed : List String) {done done' : Completed}
    (hdone : Completed.unnumbered done = Completed.unnumbered done') :
    (pool.expand path done listed).map Completed.unnumbered =
      (pool'.expand path done' listed).map Completed.unnumbered := by
  have hlabels {a b : Completed} (hab : Completed.unnumbered a = Completed.unnumbered b)
      (label : String) : (a.lookup label).isSome ↔ (b.lookup label).isSome := by
    rw [isSome_lookup_iff, isSome_lookup_iff, ← Completed.labelsOf_unnumbered a, hab,
      Completed.labelsOf_unnumbered]
  fun_induction expand pool path done listed generalizing done' with
  | case1 path done =>
    rw [expand]
    exact congrArg Except.ok hdone
  | case2 path done label rest hc => rw [expand, dif_pos hc]
  | case3 path done label rest hc hm ih =>
    rw [ih hdone, expand, dif_neg hc, if_pos ((hlabels hdone label).1 hm)]
  | case4 path done label rest hc hm hl =>
    rw [expand, dif_neg hc, if_neg (mt (hlabels hdone label).2 hm)]
    split
    · rfl
    · next hl' => cases (h.lookup_eq_none hl).symm.trans hl'
  | case5 path done label rest hc hm face hl ihTemplates ihRest =>
    obtain ⟨face', hl', hface⟩ := h.exists_lookup hl
    have hinner := ihTemplates hdone
    rw [expand_cons_of_lookup hc (mt (hlabels hdone label).2 hm) hl',
      CardFace.templates_eq_of_unnumbered hface]
    rcases cases_of_map_eq hinner with ⟨fault, hx, hy⟩ | ⟨inner, inner', hx, hy, hinner⟩
    · rw [hx, hy]
      rfl
    · rw [hx, hy]
      refine ihRest inner ?_
      rw [Completed.unnumbered_append, Completed.unnumbered_append, hinner]
      simp [Completed.unnumbered, hface]

/-! ## Compositions -/

/-- What is made of a face and the completed ones. -/
def flatten (face : CardFace) (done : Completed) : Composition where
  templates := done.map (·.2)
  steps := done.flatMap (·.2.steps) ++ face.steps
  size := effectiveSize face done

theorem compose_eq_map_flatten (pool : TemplatePool) (face : CardFace) :
    pool.compose face =
      (pool.expand face.label.toList [] face.templates).map (flatten face) := by
  rw [compose]
  cases pool.expand face.label.toList [] face.templates with
  | error fault => rfl
  | ok done =>
    refine congrArg Except.ok ?_
    simp [flatten, List.flatMap_map]

/-- It has no serial numbers if they have none. -/
theorem unnumbered_flatten (face : CardFace) (done : Completed) :
    (flatten face done).unnumbered = flatten face.unnumbered (Completed.unnumbered done) := by
  have hsize :
      effectiveSize face done = effectiveSize face.unnumbered (Completed.unnumbered done) := by
    rw [effectiveSize, effectiveSize, Completed.unnumbered, List.foldl_map]
    rfl
  simp [flatten, Composition.unnumbered, Completed.unnumbered, hsize, List.flatMap_map,
    CardFace.unnumbered, Function.comp_def]

theorem map_unnumbered_compose (pool : TemplatePool) (face : CardFace) :
    (pool.compose face).map Composition.unnumbered =
      ((pool.expand face.label.toList [] face.templates).map Completed.unnumbered).map
        (flatten face.unnumbered) := by
  rw [compose_eq_map_flatten]
  cases pool.expand face.label.toList [] face.templates with
  | error fault => rfl
  | ok done => exact congrArg Except.ok (unnumbered_flatten face done)

/-- One face, but for its serial number, cannot be composed in either of two pools that are alike,
or has one composition in both. -/
theorem compose_alike (h : pool.Alike pool') {face face' : CardFace}
    (hface : face.unnumbered = face'.unnumbered) :
    (∃ fault, pool.compose face = .error fault ∧ pool'.compose face' = .error fault) ∨
      ∃ composition composition', pool.compose face = .ok composition ∧
        pool'.compose face' = .ok composition' ∧
        composition.unnumbered = composition'.unnumbered := by
  refine cases_of_map_eq ?_
  rw [map_unnumbered_compose, map_unnumbered_compose, expand_alike h _ _ rfl, hface,
    CardFace.label_eq_of_unnumbered hface, CardFace.templates_eq_of_unnumbered hface]

end TemplatePool

end CardPress
