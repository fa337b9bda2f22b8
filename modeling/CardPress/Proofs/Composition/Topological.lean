import CardPress.Proofs.Composition.Order

/-!
# Composing is a topological sort

A face can be composed exactly if all it inherits from is registered and nothing on the way refers
back to itself; then its composition lists what it inherits from once each, dependencies first.

## Main definitions

* `TemplatePool.Flattens` — a composition holds a face's whole inheritance in a usable order.

## Main result

* `TemplatePool.compose_topological` — when composing succeeds, and what it gives.
-/

namespace CardPress.TemplatePool

open Relation

variable {pool : TemplatePool}

/-- A composition has the templates that a face refers to, directly or not, each once and after its
own templates, and all their steps. -/
structure Flattens (pool : TemplatePool) (face : CardFace) (c : Composition) : Prop where
  registered : ∀ t ∈ c.templates, ∃ label, pool.lookup label = some t
  mem_iff : ∀ label, some label ∈ c.templates.map (·.label) ↔ pool.Within face.templates label
  nodup : (c.templates.map (·.label)).Nodup
  after : ∀ before t behind, c.templates = before ++ t :: behind →
    ∀ own label, t.label = some own → TransGen pool.Refers own label →
      some label ∈ before.map (·.label)
  length_steps : c.steps.length = (c.templates.map (·.steps.length)).sum + face.steps.length

/-! ## Success -/

/-- Expanding succeeds where everything within reach is registered, off the path and no part of a
cycle. -/
theorem exists_expand {path listed : List String} {done : Completed}
    (h : ∀ l, pool.Within listed l →
      (pool.lookup l).isSome ∧ l ∉ path ∧ ¬ TransGen pool.Refers l l) :
    ∃ result, pool.expand path done listed = .ok result := by
  fun_induction expand pool path done listed with
  | case1 path done => exact ⟨done, rfl⟩
  | case2 path done label rest hc =>
    exact absurd (by simpa using hc) (h label (.of_mem List.mem_cons_self)).2.1
  | case3 path done label rest hc hm ih =>
    exact ih fun l hw => h l (hw.mono (List.subset_cons_self label rest))
  | case4 path done label rest hc hm hl =>
    simpa [hl] using (h label (.of_mem List.mem_cons_self)).1
  | case5 path done label rest hc hm face hl ihTemplates ihRest =>
    obtain ⟨inner, hinner⟩ := ihTemplates fun l hw => by
      have hr := (within_templates_iff hl).1 hw
      obtain ⟨hs, hp, ha⟩ := h l ⟨label, List.mem_cons_self, hr.to_reflTransGen⟩
      have hne : l ≠ label := fun heq => ha (heq ▸ hr)
      exact ⟨hs, by simp [hp, hne], ha⟩
    obtain ⟨result, hresult⟩ := ihRest inner fun l hw =>
      h l (hw.mono (List.subset_cons_self label rest))
    exact ⟨result, bind_eq_ok_iff.2 ⟨inner, hinner, hresult⟩⟩

/-- A composition comes from an expansion that starts with the face's own label on the path. -/
theorem expands_of_compose {face : CardFace} {c : Composition} (h : pool.compose face = .ok c) :
    ∃ done, pool.Expands face.label.toList [] face.templates done ∧
      c.templates = done.map (·.2) ∧ c.steps = c.templates.flatMap (·.steps) ++ face.steps := by
  obtain ⟨done, he, hc⟩ := bind_eq_ok_iff.1 h
  cases hc
  exact ⟨done, expands_of_expand .nil (by simp) he, rfl, rfl⟩

theorem exists_compose {face : CardFace} {done : Completed}
    (h : pool.expand face.label.toList [] face.templates = .ok done) :
    ∃ c, pool.compose face = .ok c :=
  ⟨_, bind_eq_ok_iff.2 ⟨done, h, rfl⟩⟩

/-! ## What a composition holds -/

/-- The pool's faces are under their own labels. -/
theorem InOrder.map_label {done : Completed} (h : pool.InOrder done) :
    (done.map (·.2)).map (·.label) = (labelsOf done).map some := by
  rw [labelsOf, List.map_map, List.map_map]
  refine List.map_congr_left fun e he => ?_
  exact pool.label_eq e.1 e.2 (h.lookup_eq he)

theorem flattens_of_expands {face : CardFace} {c : Composition} {done : Completed}
    (h : pool.Expands face.label.toList [] face.templates done)
    (ht : c.templates = done.map (·.2))
    (hs : c.steps = c.templates.flatMap (·.steps) ++ face.steps) : pool.Flattens face c where
  registered t hm := by
    rw [ht] at hm
    obtain ⟨e, he, rfl⟩ := List.mem_map.1 hm
    exact ⟨e.1, h.inOrder.lookup_eq he⟩
  mem_iff label := by
    rw [ht, h.inOrder.map_label, List.mem_map_of_injective (Option.some_injective String)]
    constructor
    · intro hm
      exact (h.within label hm).resolve_left (by simp)
    · intro hw
      exact h.inOrder.mem_of_within h.covers hw
  nodup := by
    rw [ht, h.inOrder.map_label]
    exact h.inOrder.nodup.map (Option.some_injective String)
  after before t behind hsplit own label hown hr := by
    rw [ht] at hsplit
    obtain ⟨first, later, hd, rfl, hl⟩ := List.map_eq_append_iff.1 hsplit
    obtain ⟨⟨k, f⟩, last, rfl, rfl, rfl⟩ := List.map_eq_cons_iff.1 hl
    have hf : pool.lookup k = some f := h.inOrder.lookup_eq (by simp [hd])
    cases (pool.label_eq k f hf).symm.trans hown
    have hb := h.inOrder.mem_before hd hr
    obtain ⟨e, he, rfl⟩ := List.mem_map.1 hb
    have hl' := pool.label_eq e.1 e.2 (h.inOrder.lookup_eq (by simp [hd, he]))
    exact List.mem_map.2 ⟨e.2, List.mem_map_of_mem he, hl'⟩
  length_steps := by
    rw [hs, List.length_append, List.length_flatMap]

/-- A face without label or under its own label can be composed exactly if every label it reaches
is registered and neither one of those nor its own reaches itself. The composition then has each of
those labels once, after all that it reaches, and no steps but those of its templates and the
face. -/
theorem compose_topological (pool : TemplatePool) (face : CardFace)
    (hface : face.label = none ∨ ∃ label, pool.lookup label = some face) :
    ((∃ c, pool.compose face = .ok c) ↔
      (∀ label, pool.Within face.templates label →
        (pool.lookup label).isSome ∧ ¬ TransGen pool.Refers label label) ∧
      ∀ own, face.label = some own → ¬ TransGen pool.Refers own own) ∧
    ∀ c, pool.compose face = .ok c → pool.Flattens face c := by
  -- For such a face, reaching its own label is reaching itself.
  have hself (own : String) (ho : face.label = some own) :
      pool.Within face.templates own ↔ TransGen pool.Refers own own := by
    rcases hface with hn | ⟨label, hl⟩
    · cases hn.symm.trans ho
    · cases (pool.label_eq label face hl).symm.trans ho
      exact within_templates_iff hl
  refine ⟨⟨?_, ?_⟩, ?_⟩
  · rintro ⟨c, hc⟩
    obtain ⟨done, h, -, -⟩ := expands_of_compose hc
    refine ⟨fun label hw => ?_, fun own ho hr => ?_⟩
    · have hm := h.inOrder.mem_of_within h.covers hw
      obtain ⟨e, he, rfl⟩ := List.mem_map.1 hm
      exact ⟨by simp [h.inOrder.lookup_eq he], h.inOrder.not_reaches_self hm⟩
    · have hm := h.inOrder.mem_of_within h.covers ((hself own ho).2 hr)
      exact h.offPath own (by simp [ho]) hm
  · rintro ⟨hall, hown⟩
    have hfree : ∀ l, pool.Within face.templates l →
        (pool.lookup l).isSome ∧ l ∉ face.label.toList ∧ ¬ TransGen pool.Refers l l := by
      intro l hw
      obtain ⟨hs, ha⟩ := hall l hw
      refine ⟨hs, fun hm => ?_, ha⟩
      rw [Option.mem_toList] at hm
      exact hown l hm ((hself l hm).1 hw)
    obtain ⟨done, he⟩ := exists_expand hfree
    exact exists_compose he
  · intro c hc
    obtain ⟨done, h, ht, hs⟩ := expands_of_compose hc
    exact flattens_of_expands h ht hs

/-- A face under a label. -/
def labelled (serial : Nat) (label : String) (templates : List String) : CardFace :=
  { CardFace.empty serial with label := some label, templates := templates }

/-- Four faces, of which the last inherits from the first on two ways. -/
def diamond : TemplatePool :=
  (((empty.insert "base" (labelled 0 "base" []) rfl).insert
    "left" (labelled 1 "left" ["base"]) rfl).insert
    "right" (labelled 2 "right" ["base"]) rfl).insert
    "card" (labelled 3 "card" ["left", "right"]) rfl

theorem diamond_flattens :
    (∃ label, diamond.lookup label = some (labelled 3 "card" ["left", "right"])) ∧
    ∃ c, diamond.compose (labelled 3 "card" ["left", "right"]) = .ok c ∧
      c.templates.map (·.label) = [some "base", some "left", some "right"] ∧
      diamond.Flattens (labelled 3 "card" ["left", "right"]) c := by
  have hface : ∃ label, diamond.lookup label = some (labelled 3 "card" ["left", "right"]) :=
    ⟨"card", by cbv⟩
  obtain ⟨c, hc, ht⟩ : ∃ c, diamond.compose (labelled 3 "card" ["left", "right"]) = .ok c ∧
      c.templates.map (·.label) = [some "base", some "left", some "right"] :=
    ⟨_, by cbv, rfl⟩
  exact ⟨hface, c, hc, ht, (compose_topological diamond _ (.inr hface)).2 c hc⟩

end CardPress.TemplatePool
