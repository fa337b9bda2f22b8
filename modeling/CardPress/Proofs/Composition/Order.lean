import CardPress.Pool
import CardPress.Proofs.Outcome

/-!
# The order of completion

Expanding labels depth first completes each of them once, after everything it refers to. This is the
invariant behind all that is known about compositions: a completed label can be passed over, because
nothing on the way from it is on the path or missing.

## Main definitions

* `TemplatePool.Refers` — one registered label refers to another.
* `TemplatePool.InOrder` — completed labels, each once and after those it refers to.
* `TemplatePool.Expands` — what a successful expansion adds to the completed labels.
-/

namespace CardPress.TemplatePool

open Relation

/-- The face under one label lists the other. -/
def Refers (pool : TemplatePool) (a b : String) : Prop :=
  ∃ face, pool.lookup a = some face ∧ b ∈ face.templates

/-- A label that is listed, or that a listed one refers to, directly or not. -/
def Within (pool : TemplatePool) (listed : List String) (label : String) : Prop :=
  ∃ t ∈ listed, ReflTransGen pool.Refers t label

theorem Within.of_mem {pool : TemplatePool} {listed : List String} {label : String}
    (h : label ∈ listed) : pool.Within listed label :=
  ⟨label, h, .refl⟩

theorem Within.mono {pool : TemplatePool} {listed more : List String} {label : String}
    (hs : listed ⊆ more) (h : pool.Within listed label) : pool.Within more label := by
  obtain ⟨t, ht, hr⟩ := h
  exact ⟨t, hs ht, hr⟩

/-- What a face's templates reach, a label of that face properly reaches. -/
theorem within_templates_iff {pool : TemplatePool} {own label : String} {face : CardFace}
    (hl : pool.lookup own = some face) :
    pool.Within face.templates label ↔ TransGen pool.Refers own label := by
  rw [TransGen.head'_iff]
  constructor
  · rintro ⟨t, ht, hr⟩
    exact ⟨t, ⟨face, hl, ht⟩, hr⟩
  · rintro ⟨t, ⟨f, hf, ht⟩, hr⟩
    cases hl.symm.trans hf
    exact ⟨t, ht, hr⟩

/-! ## Completed labels -/

def labelsOf (done : Completed) : List String :=
  done.map (·.1)

@[simp] theorem labelsOf_nil : labelsOf [] = [] := rfl

@[simp] theorem labelsOf_append (a b : Completed) :
    labelsOf (a ++ b) = labelsOf a ++ labelsOf b := by
  simp [labelsOf]

@[simp] theorem labelsOf_cons (e : String × CardFace) (rest : Completed) :
    labelsOf (e :: rest) = e.1 :: labelsOf rest := rfl

@[simp] theorem isSome_lookup_iff (label : String) (done : Completed) :
    (done.lookup label).isSome ↔ label ∈ labelsOf done := by
  rw [List.lookup_isSome_iff, labelsOf, List.mem_map]
  simp only [beq_iff_eq, @eq_comm _ label]

/-- Labels with their faces, each once and after all that it refers to. -/
inductive InOrder (pool : TemplatePool) : Completed → Prop where
  | nil : InOrder pool []
  | snoc {done : Completed} {label : String} {face : CardFace} (before : InOrder pool done)
      (registered : pool.lookup label = some face) (fresh : label ∉ labelsOf done)
      (complete : face.templates ⊆ labelsOf done) : InOrder pool (done ++ [(label, face)])

namespace InOrder

variable {pool : TemplatePool} {done : Completed}

theorem lookup_eq (h : pool.InOrder done) {label : String} {face : CardFace}
    (hm : (label, face) ∈ done) : pool.lookup label = some face := by
  induction h with
  | nil => cases hm
  | snoc before registered fresh complete ih =>
    rcases List.mem_append.1 hm with hm | hm
    · exact ih hm
    · cases List.mem_singleton.1 hm
      exact registered

theorem nodup (h : pool.InOrder done) : (labelsOf done).Nodup := by
  induction h with
  | nil => exact List.nodup_nil
  | snoc before registered fresh complete ih =>
    rw [labelsOf_append]
    refine List.nodup_append.2 ⟨ih, by simp, ?_⟩
    rintro a ha b hb rfl
    cases List.mem_singleton.1 hb
    exact fresh ha

/-- Completed labels stay among themselves. -/
theorem mem_of_refers (h : pool.InOrder done) {a b : String} (ha : a ∈ labelsOf done)
    (hr : pool.Refers a b) : b ∈ labelsOf done := by
  induction h with
  | nil => cases ha
  | @snoc done label face before registered fresh complete ih =>
    rw [labelsOf_append, List.mem_append] at ha ⊢
    rcases ha with ha | ha
    · exact .inl (ih ha)
    · obtain ⟨f, hf, hb⟩ := hr
      cases List.mem_singleton.1 ha
      cases registered.symm.trans hf
      exact .inl (complete hb)

theorem mem_of_reaches (h : pool.InOrder done) {a b : String} (ha : a ∈ labelsOf done)
    (hr : ReflTransGen pool.Refers a b) : b ∈ labelsOf done := by
  induction hr with
  | refl => exact ha
  | tail _ hbc ih => exact h.mem_of_refers ih hbc

theorem mem_of_within (h : pool.InOrder done) {listed : List String} {label : String}
    (hl : listed ⊆ labelsOf done) (hw : pool.Within listed label) : label ∈ labelsOf done := by
  obtain ⟨t, ht, hr⟩ := hw
  exact h.mem_of_reaches (hl ht) hr

/-- Whatever is completed at some place refers only to what stands before it. -/
theorem mem_before (h : pool.InOrder done) {before behind : Completed} {label other : String}
    {face : CardFace} (hd : done = before ++ (label, face) :: behind)
    (hr : TransGen pool.Refers label other) : other ∈ labelsOf before := by
  induction h generalizing behind with
  | nil => simp at hd
  | @snoc done last f hbefore registered fresh complete ih =>
    rcases List.eq_nil_or_concat behind with rfl | ⟨behind, e, rfl⟩
    · obtain ⟨rfl, he⟩ := List.append_inj' hd rfl
      cases he
      exact hbefore.mem_of_within complete ((within_templates_iff registered).2 hr)
    · rw [List.concat_eq_append, ← List.cons_append, ← List.append_assoc] at hd
      exact ih (List.append_inj' hd rfl).1

/-- No completed label reaches itself. -/
theorem not_reaches_self (h : pool.InOrder done) {label : String} (hm : label ∈ labelsOf done) :
    ¬ TransGen pool.Refers label label := by
  intro hr
  obtain ⟨⟨_, face⟩, he, rfl⟩ := List.mem_map.1 hm
  obtain ⟨before, behind, hd⟩ := List.append_of_mem he
  have hb := h.mem_before hd hr
  have hn := h.nodup
  rw [hd, labelsOf_append, labelsOf_cons] at hn
  exact (List.nodup_append.1 hn).2.2 _ hb _ List.mem_cons_self rfl

end InOrder

/-! ## Expanding -/

/-- What expanding listed labels makes of the completed ones. -/
structure Expands (pool : TemplatePool) (path : List String) (done : Completed)
    (listed : List String) (result : Completed) : Prop where
  inOrder : pool.InOrder result
  offPath : ∀ l ∈ path, l ∉ labelsOf result
  keeps : labelsOf done ⊆ labelsOf result
  covers : listed ⊆ labelsOf result
  within : ∀ l ∈ labelsOf result, l ∈ labelsOf done ∨ pool.Within listed l

theorem Expands.refl {pool : TemplatePool} {path : List String} {done : Completed}
    (h : pool.InOrder done) (hp : ∀ l ∈ path, l ∉ labelsOf done) :
    pool.Expands path done [] done where
  inOrder := h
  offPath := hp
  keeps := List.Subset.refl _
  covers := List.nil_subset _
  within _ hl := .inl hl

/-- A listed label that is completed already adds nothing. -/
theorem Expands.cons_of_mem {pool : TemplatePool} {path rest : List String}
    {done result : Completed} {label : String} (hl : label ∈ labelsOf done)
    (h : pool.Expands path done rest result) : pool.Expands path done (label :: rest) result where
  inOrder := h.inOrder
  offPath := h.offPath
  keeps := h.keeps
  covers := List.cons_subset.2 ⟨h.keeps hl, h.covers⟩
  within l hm := (h.within l hm).imp_right (Within.mono (List.subset_cons_self label rest))

/-- A label is completed after its own templates, and then come the others that are listed. -/
theorem Expands.cons {pool : TemplatePool} {path rest : List String}
    {done inner result : Completed} {label : String} {face : CardFace}
    (hl : pool.lookup label = some face)
    (hi : pool.Expands (path ++ [label]) done face.templates inner)
    (h : pool.Expands path (inner ++ [(label, face)]) rest result) :
    pool.Expands path done (label :: rest) result where
  inOrder := h.inOrder
  offPath := h.offPath
  keeps l hm := h.keeps (by simp [hi.keeps hm])
  covers := List.cons_subset.2 ⟨h.keeps (by simp), h.covers⟩
  within l hm := by
    rcases h.within l hm with hm | hw
    · rw [labelsOf_append, List.mem_append] at hm
      rcases hm with hm | hm
      · refine (hi.within l hm).imp_right fun hw => ?_
        exact ⟨label, List.mem_cons_self, ((within_templates_iff hl).1 hw).to_reflTransGen⟩
      · cases List.mem_singleton.1 hm
        exact .inr (.of_mem List.mem_cons_self)
    · exact .inr (hw.mono (List.subset_cons_self label rest))

/-- With one label more completed, the path is still free of completed ones. -/
theorem Expands.snoc {pool : TemplatePool} {path : List String} {done inner : Completed}
    {label : String} {face : CardFace} (hl : pool.lookup label = some face)
    (hp : label ∉ path) (hi : pool.Expands (path ++ [label]) done face.templates inner) :
    pool.InOrder (inner ++ [(label, face)]) ∧
      ∀ l ∈ path, l ∉ labelsOf (inner ++ [(label, face)]) := by
  refine ⟨.snoc hi.inOrder hl (hi.offPath label (by simp)) hi.covers, fun l hm => ?_⟩
  have hne : l ≠ label := fun h => hp (h ▸ hm)
  simp [hi.offPath l (by simp [hm]), hne]

/-- A successful expansion keeps what is completed in order and off the path. -/
theorem expands_of_expand {pool : TemplatePool} {path listed : List String}
    {done result : Completed} (h : pool.InOrder done) (hp : ∀ l ∈ path, l ∉ labelsOf done)
    (he : pool.expand path done listed = .ok result) : pool.Expands path done listed result := by
  fun_induction expand pool path done listed generalizing result with
  | case1 =>
    cases he
    exact .refl h hp
  | case2 => cases he
  | case3 path done label rest hc hm ih =>
    exact .cons_of_mem ((isSome_lookup_iff label done).1 hm) (ih h hp he)
  | case4 => cases he
  | case5 path done label rest hc hm face hl ihTemplates ihRest =>
    rw [isSome_lookup_iff] at hm
    obtain ⟨inner, hinner, he⟩ := bind_eq_ok_iff.1 he
    have hp' : ∀ l ∈ path ++ [label], l ∉ labelsOf done := by
      simpa [or_imp, forall_and, hm] using hp
    have hi := ihTemplates h hp' hinner
    obtain ⟨ho, hp''⟩ := hi.snoc hl (by simpa using hc)
    exact .cons hl hi (ihRest inner ho hp'' he)

end CardPress.TemplatePool
