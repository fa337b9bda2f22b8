import CardPress.Proofs.Composition.Topological

/-!
# Inherited sizes

A composition settles sizes in one pass over its templates, through a table. The table agrees with
the plain recursion over templates, because each template stands after its own ones and under its
own label.

## Main definitions

* `TemplatePool.Sized` — the size of a face by recursion over its templates.
* `TemplatePool.settledSizes` — the table that a composition settles.

## Main result

* `TemplatePool.compose_size` — a composition's sizes are those of the recursion.
-/

namespace CardPress.TemplatePool

open Relation

/-- The size of a face, given those of its templates: its own, else that of the template listed last
among those that have one. -/
inductive Sized (pool : TemplatePool) : CardFace → Option Size → Prop where
  | intro {face : CardFace} (sizes : String → Option Size)
      (registered : ∀ label ∈ face.templates, (pool.lookup label).isSome)
      (templates : ∀ label ∈ face.templates, ∀ t, pool.lookup label = some t →
        Sized pool t (sizes label)) :
      Sized pool face (face.size.or (face.templates.filterMap sizes).getLast?)

/-- The sizes of completed templates, settled in order. -/
def settledSizes (done : Completed) : Dict (Option Size) :=
  done.foldl (fun settled (label, t) => settled.insert label (settle settled t)) ∅

theorem settledSizes_append (done : Completed) (label : String) (t : CardFace) :
    settledSizes (done ++ [(label, t)]) =
      (settledSizes done).insert label (settle (settledSizes done) t) := by
  simp [settledSizes]

theorem settle_eq_or (settled : Dict (Option Size)) (face : CardFace) :
    settle settled face = face.size.or
      (face.templates.filterMap fun label => (settled.get? label).join).getLast? := by
  rw [settle, List.getLast?_filterMap]
  cases face.size <;> rfl

variable {pool : TemplatePool} {done : Completed}

/-- A face has one size at most. -/
theorem Sized.unique {face : CardFace} {a b : Option Size} (ha : pool.Sized face a)
    (hb : pool.Sized face b) : a = b := by
  induction ha generalizing b with
  | @intro face sizes registered templates ih =>
    cases hb with
    | intro sizes' registered' templates' =>
      have heq : ∀ label ∈ face.templates, sizes label = sizes' label := by
        intro label hm
        obtain ⟨t, ht⟩ := Option.isSome_iff_exists.1 (registered label hm)
        exact ih label hm t ht (templates' label hm t ht)
      rw [List.filterMap_congr heq]

/-! ## The table -/

/-- Where all that a face lists is completed and the table has the sizes, settling the face gives
its size. -/
theorem sized_settle_of_forall {face : CardFace} (h : pool.InOrder done)
    (hc : face.templates ⊆ labelsOf done)
    (hs : ∀ label t, (label, t) ∈ done →
      ∃ size, (settledSizes done).get? label = some size ∧ pool.Sized t size) :
    pool.Sized face (settle (settledSizes done) face) := by
  have entry : ∀ label ∈ face.templates, ∃ t, (label, t) ∈ done := by
    intro label hm
    obtain ⟨⟨_, t⟩, he, rfl⟩ := List.mem_map.1 (hc hm)
    exact ⟨t, he⟩
  rw [settle_eq_or]
  refine .intro _ (fun label hm => ?_) fun label hm t ht => ?_
  · obtain ⟨t, he⟩ := entry label hm
    simp [h.lookup_eq he]
  · obtain ⟨t', he⟩ := entry label hm
    cases (h.lookup_eq he).symm.trans ht
    obtain ⟨size, hget, hsize⟩ := hs label t he
    simpa [hget] using hsize

/-- The table has the size of every completed template. -/
theorem InOrder.sized_of_mem (h : pool.InOrder done) {label : String} {t : CardFace}
    (hm : (label, t) ∈ done) :
    ∃ size, (settledSizes done).get? label = some size ∧ pool.Sized t size := by
  induction h generalizing label t with
  | nil => cases hm
  | @snoc done last face before registered fresh complete ih =>
    rw [settledSizes_append]
    rcases List.mem_append.1 hm with hd | hl
    · have hne : label ≠ last := fun heq => fresh (heq ▸ List.mem_map_of_mem hd)
      rw [Dict.get?_insert_of_ne _ hne]
      exact ih hd
    · cases List.mem_singleton.1 hl
      exact ⟨_, Dict.get?_insert_self _ _ _,
        sized_settle_of_forall before complete fun label t => ih⟩

/-- Settling a face after its templates gives its size. -/
theorem InOrder.sized_settle (h : pool.InOrder done) {face : CardFace}
    (hc : face.templates ⊆ labelsOf done) :
    pool.Sized face (settle (settledSizes done) face) :=
  sized_settle_of_forall h hc fun _ _ => h.sized_of_mem

/-! ## Parts of a composition -/

/-- What comes first was completed by itself. -/
theorem InOrder.of_append {before behind : Completed} (h : pool.InOrder (before ++ behind)) :
    pool.InOrder before := by
  induction behind using List.reverseRecOn with
  | nil => simpa using h
  | append_singleton behind e ih =>
    generalize hd : before ++ (behind ++ [e]) = all at h
    cases h with
    | nil => simp at hd
    | snoc hbefore registered fresh complete =>
      rw [← List.append_assoc] at hd
      exact ih ((List.append_inj' hd rfl).1 ▸ hbefore)

/-- What a completed template lists was completed before it. -/
theorem InOrder.templates_subset {before behind : Completed} {label : String} {t : CardFace}
    (h : pool.InOrder (before ++ (label, t) :: behind)) : t.templates ⊆ labelsOf before := by
  intro l hl
  have ht : pool.lookup label = some t := h.lookup_eq (by simp)
  exact h.mem_before rfl (.single ⟨t, ht, hl⟩)

/-- A completed template can be composed itself. -/
theorem InOrder.exists_compose (h : pool.InOrder done) {label : String} {t : CardFace}
    (hm : (label, t) ∈ done) : ∃ c, pool.compose t = .ok c := by
  have ht := h.lookup_eq hm
  have hl : label ∈ labelsOf done := List.mem_map.2 ⟨_, hm, rfl⟩
  have hfree : ∀ l, pool.Within t.templates l →
      (pool.lookup l).isSome ∧ l ∉ t.label.toList ∧ ¬ TransGen pool.Refers l l := by
    intro l hw
    have hr := (within_templates_iff ht).1 hw
    have hl' := h.mem_of_reaches hl hr.to_reflTransGen
    obtain ⟨e, he, rfl⟩ := List.mem_map.1 hl'
    refine ⟨by simp [h.lookup_eq he], ?_, h.not_reaches_self hl'⟩
    rw [pool.label_eq label t ht]
    intro hself
    cases List.mem_singleton.1 hself
    exact h.not_reaches_self hl hr
  obtain ⟨result, he⟩ := exists_expand hfree
  exact TemplatePool.exists_compose he

/-- A composition has the size that the recursion gives the face, and that only. -/
theorem sized_of_compose {face : CardFace} {c : Composition} (h : pool.compose face = .ok c) :
    pool.Sized face c.size := by
  obtain ⟨done, he, hc⟩ := bind_eq_ok_iff.1 h
  cases hc
  have hx := expands_of_expand .nil (by simp) he
  exact hx.inOrder.sized_settle hx.covers

/-- The size of a composition is the one size that the face has by recursion over its templates. Its
templates can all be composed, and the size of each is the one that the face's composition settled
for it: what it was given in its turn and what the table has in the end. -/
theorem compose_size {face : CardFace} {c : Composition} (h : pool.compose face = .ok c) :
    (∀ size, pool.Sized face size ↔ size = c.size) ∧
    ∃ done, pool.expand face.label.toList [] face.templates = .ok done ∧
      c.templates = done.map (·.2) ∧ c.size = settle (settledSizes done) face ∧
      ∀ before label t behind, done = before ++ (label, t) :: behind →
        ∃ inner, pool.compose t = .ok inner ∧ settle (settledSizes before) t = inner.size ∧
          (settledSizes done).get? label = some inner.size := by
  have hsize := sized_of_compose h
  refine ⟨fun size => ⟨fun hs => hs.unique hsize, fun hs => hs ▸ hsize⟩, ?_⟩
  obtain ⟨done, he, hc⟩ := bind_eq_ok_iff.1 h
  cases hc
  have ho := (expands_of_expand .nil (by simp) he).inOrder
  refine ⟨done, he, rfl, rfl, ?_⟩
  rintro before label t behind rfl
  have hm : (label, t) ∈ before ++ (label, t) :: behind := by simp
  obtain ⟨inner, hi⟩ := ho.exists_compose hm
  have hinner := sized_of_compose hi
  have hturn := ho.of_append.sized_settle ho.templates_subset
  obtain ⟨size, hget, hentry⟩ := ho.sized_of_mem hm
  exact ⟨inner, hi, hturn.unique hinner, hget.trans (congrArg some (hentry.unique hinner))⟩

/-- The face `card` lists two templates without size, of which the first inherits one. -/
def heirs : TemplatePool :=
  (diamond.insert "base" { labelled 0 "base" [] with size := some ⟨3, 4⟩ } rfl).insert
    "right" (labelled 2 "right" []) rfl

theorem compose_size_heirs :
    ∃ c, heirs.compose (labelled 3 "card" ["left", "right"]) = .ok c ∧ c.size = some ⟨3, 4⟩ ∧
      ∀ size, heirs.Sized (labelled 3 "card" ["left", "right"]) size ↔ size = c.size := by
  obtain ⟨c, hc, hs⟩ : ∃ c, heirs.compose (labelled 3 "card" ["left", "right"]) = .ok c ∧
      c.size = some ⟨3, 4⟩ :=
    ⟨_, by cbv, rfl⟩
  exact ⟨c, hc, hs, (compose_size hc).1⟩

end CardPress.TemplatePool
