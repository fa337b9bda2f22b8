import CardPress.Deck
import CardPress.Proofs.Outcome

/-!
# The pool of a deck

The labelled faces of a deck go into its pool one after the other. They all fit in exactly if no
label comes twice. Then the pool has each of them under its label and nothing else, in whatever
order they came.

## Main results

* `Deck.exists_pool_iff` — a deck has a pool exactly if its labels differ.
* `Deck.duplicate_of_pool` — otherwise the fault names a label that comes twice.
* `Deck.lookup_pool` — what the pool has under a label.
-/

namespace CardPress

@[simp] theorem TemplatePool.lookup_empty (label : String) :
    TemplatePool.empty.lookup label = none := rfl

theorem TemplatePool.register_of_none (pool : TemplatePool) {face : CardFace}
    (h : face.label = none) : register face pool = .error .unlabelledTemplate pool := by
  have hregister : register face = throw .unlabelledTemplate := by
    unfold register
    split
    · rfl
    · next hsome => simp [h] at hsome
  rw [hregister]
  rfl

theorem TemplatePool.register_of_some (pool : TemplatePool) {face : CardFace} {label : String}
    (h : face.label = some label) :
    register face pool =
      if (pool.lookup label).isSome then .error (.duplicateLabel label) pool
      else .ok () (pool.insert label face h) := by
  have hregister : register face = (do
      if ((← get).lookup label).isSome then throw (.duplicateLabel label)
      modify fun pool => pool.insert label face h) := by
    unfold register
    split
    · next hnone => simp [h] at hnone
    · next other hother =>
      cases h.symm.trans hother
      rfl
  rw [hregister]
  show (if (pool.lookup label).isSome then _ else _ : EStateM Fault TemplatePool Unit) pool = _
  split <;> rfl

section

variable {change : EStateM Fault TemplatePool Unit} {more : Unit → EStateM Fault TemplatePool Unit}
  {pool pool' : TemplatePool} {fault : Fault}

theorem TemplatePool.changed_of_error (h : change pool = .error fault pool') :
    pool.changed (change >>= more) = .error fault := by
  simp only [changed, bind, EStateM.bind, h]

theorem TemplatePool.changed_of_ok (h : change pool = .ok () pool') :
    pool.changed (change >>= more) = pool'.changed (more ()) := by
  simp only [changed, bind, EStateM.bind, h]

end

/-- The labels of some faces, one for each that has one. -/
def CardFace.labels (faces : List CardFace) : List String :=
  faces.filterMap (·.label)

namespace Deck

/-- The labels of a deck, in order. -/
def labels (d : Deck) : List String :=
  d.definitions.filterMap (·.label)

/-- The places of faces are their serial numbers. -/
theorem getElem?_faces (d : Deck) (i : Nat) :
    d.faces[i]? = d.definitions[i]?.map fun definition => definition.face i := by
  simp [faces, List.getElem?_zipIdx, Function.comp_def]

/-- A definition has its face among those of the deck. -/
theorem face_mem_faces {d : Deck} {i : Nat} {definition : CardDefinition}
    (h : d.definitions[i]? = some definition) : definition.face i ∈ d.faces := by
  refine List.mem_of_getElem? (i := i) ?_
  rw [getElem?_faces, h]
  rfl

@[simp] theorem length_faces (d : Deck) : d.faces.length = d.definitions.length := by
  simp [faces]

@[simp] theorem labels_faces (d : Deck) : CardFace.labels d.faces = d.labels := by
  have hdefinitions : d.definitions = d.definitions.zipIdx.map Prod.fst := by simp
  rw [labels, hdefinitions, CardFace.labels, faces, List.filterMap_map, List.filterMap_map]
  simp [CardDefinition.face]

/-! ## Registering faces in turn -/

variable {pool pool' : TemplatePool} {face : CardFace} {rest faces : List CardFace}

@[simp] theorem registerLabelled_nil (pool : TemplatePool) :
    registerLabelled pool [] = .ok pool := rfl

theorem registerLabelled_of_none (h : face.label = none) :
    registerLabelled pool (face :: rest) = registerLabelled pool rest := by
  simp [registerLabelled, h]

theorem registerLabelled_of_some {label : String} (h : face.label = some label) :
    registerLabelled pool (face :: rest) =
      if (pool.lookup label).isSome then .error (.duplicateLabel label)
      else registerLabelled (pool.insert label face h) rest := by
  have hregister := TemplatePool.register_of_some pool h
  simp only [registerLabelled, List.filter_cons, h, Option.isSome_some, if_true]
  split
  · next htaken => exact TemplatePool.changed_of_error (hregister.trans (if_pos htaken))
  · next hfresh => exact TemplatePool.changed_of_ok (hregister.trans (if_neg hfresh))

/-- What a pool has after more faces are registered. -/
theorem lookup_registerLabelled (h : registerLabelled pool faces = .ok pool') (label : String)
    (face : CardFace) :
    pool'.lookup label = some face ↔
      pool.lookup label = some face ∨ face ∈ faces ∧ face.label = some label := by
  induction faces generalizing pool with
  | nil =>
    cases h
    simp
  | cons first rest ih =>
    cases hfirst : first.label with
    | none =>
      rw [registerLabelled_of_none hfirst] at h
      rw [ih h, List.mem_cons]
      grind
    | some own =>
      rw [registerLabelled_of_some hfirst] at h
      split at h
      · cases h
      · next hfresh =>
        rw [ih h, TemplatePool.lookup_insert, List.mem_cons]
        grind

theorem labels_cons_of_none (h : face.label = none) :
    CardFace.labels (face :: rest) = CardFace.labels rest := by
  simp [CardFace.labels, h]

theorem labels_cons_of_some {label : String} (h : face.label = some label) :
    CardFace.labels (face :: rest) = label :: CardFace.labels rest := by
  simp [CardFace.labels, h]

/-- Faces can be registered exactly if their labels differ and are new to the pool. -/
theorem exists_registerLabelled_iff :
    (∃ pool', registerLabelled pool faces = .ok pool') ↔
      (CardFace.labels faces).Nodup ∧
        ∀ label ∈ CardFace.labels faces, pool.lookup label = none := by
  induction faces generalizing pool with
  | nil => simp [CardFace.labels]
  | cons first rest ih =>
    cases hfirst : first.label with
    | none => rw [registerLabelled_of_none hfirst, labels_cons_of_none hfirst, ih]
    | some own =>
      rw [registerLabelled_of_some hfirst, labels_cons_of_some hfirst]
      cases hown : pool.lookup own with
      | some other => simp [hown]
      | none =>
        simp only [Option.isSome_none, Bool.false_eq_true, if_false, ih, List.nodup_cons,
          List.forall_mem_cons, TemplatePool.lookup_insert]
        grind

/-- A face that cannot be registered has a label that is there already. -/
theorem duplicate_of_registerLabelled {fault : Fault}
    (h : registerLabelled pool faces = .error fault) :
    ∃ label, fault = .duplicateLabel label ∧
      1 < (CardFace.labels faces).count label + (pool.lookup label).toList.length := by
  induction faces generalizing pool with
  | nil => cases h
  | cons first rest ih =>
    cases hfirst : first.label with
    | none =>
      rw [registerLabelled_of_none hfirst] at h
      rw [labels_cons_of_none hfirst]
      exact ih h
    | some own =>
      rw [registerLabelled_of_some hfirst] at h
      rw [labels_cons_of_some hfirst]
      cases hown : pool.lookup own with
      | some other =>
        simp only [hown, Option.isSome_some, if_true, Except.error.injEq] at h
        exact ⟨own, h.symm, by simp [hown]⟩
      | none =>
        simp only [hown, Option.isSome_none, Bool.false_eq_true, if_false] at h
        obtain ⟨label, hfault, hcount⟩ := ih h
        refine ⟨label, hfault, ?_⟩
        rw [TemplatePool.lookup_insert] at hcount
        by_cases heq : label = own
        · subst heq
          simp only [if_true, Option.toList_some, List.length_singleton] at hcount
          rw [List.count_cons_self]
          omega
        · rw [if_neg heq] at hcount
          rwa [List.count_cons_of_ne (Ne.symm heq)]

/-! ## Decks -/

variable {d : Deck} {pool : TemplatePool}

/-- A deck has a pool exactly if its labels differ. -/
theorem exists_pool_iff (d : Deck) : (∃ pool, d.pool = .ok pool) ↔ d.labels.Nodup := by
  rw [pool, exists_registerLabelled_iff, labels_faces]
  simp

/-- The fault of a deck without pool names a label that comes twice. -/
theorem duplicate_of_pool {fault : Fault} (h : d.pool = .error fault) :
    ∃ label, fault = .duplicateLabel label ∧ 1 < d.labels.count label := by
  obtain ⟨label, hfault, hcount⟩ := duplicate_of_registerLabelled h
  rw [labels_faces] at hcount
  exact ⟨label, hfault, by simpa using hcount⟩

/-- Under a label, the pool of a deck has the face with that label. -/
theorem lookup_pool (h : d.pool = .ok pool) (label : String) (face : CardFace) :
    pool.lookup label = some face ↔ face ∈ d.faces ∧ face.label = some label := by
  rw [lookup_registerLabelled h]
  simp

end Deck

end CardPress
