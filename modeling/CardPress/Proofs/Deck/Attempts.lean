import CardPress.Proofs.Deck.Registration
import CardPress.Proofs.Dict

/-!
# Attempts to register faces

A pool on which faces are registered one after the other stays as it is when a face has no label, or
one that is there already. So the first face with a label is the one that is found under it.

## Main definitions

* `TemplatePool.attempt`, `TemplatePool.attemptAll` — the pool after one call and after many,
  successful or not.
* `TemplatePool.HoldsFirst` — what a pool then has.

## Main results

* `TemplatePool.eq_of_lookup` — a pool is determined by what it has under each label.
* `TemplatePool.eq_of_register_error` — a call that fails changes nothing.
* `TemplatePool.attemptAll_laws` — what a pool has after any calls, and that their order does not
  matter if the labels differ.
-/

namespace CardPress

namespace TemplatePool

variable {pool pool' : TemplatePool} {face : CardFace} {faces others before behind : List CardFace}
  {label : String} {fault : Fault}

/-- The pool after a call that may fail. -/
def attempt (pool : TemplatePool) (face : CardFace) : TemplatePool :=
  match register face pool with
  | .ok _ pool => pool
  | .error _ pool => pool

/-- The pool after calls that may fail. -/
def attemptAll (pool : TemplatePool) (faces : List CardFace) : TemplatePool :=
  faces.foldl attempt pool

/-- Under each label there is the first face that has it, the labels are those of the faces, in
ascending order, and each counts once. -/
structure HoldsFirst (faces : List CardFace) (pool : TemplatePool) : Prop where
  lookup_eq : ∀ label, pool.lookup label = faces.find? (·.label = some label)
  label_eq : ∀ label face, pool.lookup label = some face → face.label = some label
  sorted : pool.labels.Pairwise (· < ·)
  mem_labels_iff : ∀ label, label ∈ pool.labels ↔ label ∈ CardFace.labels faces
  size_eq : pool.size = (CardFace.labels faces).dedup.length

/-- A pool is determined by what it has under each label. -/
theorem eq_of_lookup (h : ∀ label, pool.lookup label = pool'.lookup label) : pool = pool' := by
  have hfaces : pool.faces = pool'.faces := Dict.ext_of_sorted pool.sorted pool'.sorted h
  cases pool
  cases pool'
  cases hfaces
  rfl

theorem mem_labels_iff_lookup : label ∈ pool.labels ↔ pool.lookup label ≠ none := by
  rw [labels, ← Dict.contains_iff, Dict.contains_eq_isSome, Option.isSome_iff_ne_none, lookup]

/-! ## One call -/

/-- A call that fails has changed nothing. -/
theorem eq_of_register_error (h : register face pool = .error fault pool') : pool' = pool := by
  cases hface : face.label with
  | none =>
    rw [register_of_none pool hface] at h
    cases h
    rfl
  | some own =>
    rw [register_of_some pool hface] at h
    split at h
    · cases h
      rfl
    · cases h

theorem attempt_of_error (h : register face pool = .error fault pool') :
    pool.attempt face = pool := by
  rw [attempt, h]
  exact eq_of_register_error h

theorem attempt_of_ok (h : register face pool = .ok () pool') : pool.attempt face = pool' := by
  rw [attempt, h]

/-- A call succeeds for a face with a label that is not there yet. -/
theorem exists_register_iff :
    (∃ pool', register face pool = .ok () pool') ↔
      ∃ label, face.label = some label ∧ pool.lookup label = none := by
  cases hface : face.label with
  | none => simp [register_of_none pool hface]
  | some own =>
    rw [register_of_some pool hface]
    cases hown : pool.lookup own <;> simp [hown]

/-- What is there stays, and the label of the face is given to it if it is free. -/
theorem lookup_attempt (pool : TemplatePool) (face : CardFace) (label : String) :
    (pool.attempt face).lookup label =
      (pool.lookup label).or (if face.label = some label then some face else none) := by
  cases hface : face.label with
  | none =>
    rw [attempt_of_error (register_of_none _ hface)]
    simp
  | some own =>
    have hregister := register_of_some pool hface
    cases hown : pool.lookup own with
    | some first =>
      rw [hown, Option.isSome_some, if_pos rfl] at hregister
      rw [attempt_of_error hregister]
      by_cases hlabel : own = label
      · subst hlabel
        simp [hown]
      · simp [hlabel]
    | none =>
      rw [hown, Option.isSome_none, if_neg Bool.false_ne_true] at hregister
      rw [attempt_of_ok hregister, lookup_insert]
      by_cases hlabel : label = own
      · subst hlabel
        simp [hown]
      · simp [hlabel, Ne.symm hlabel]

/-! ## Many calls -/

theorem attemptAll_cons (pool : TemplatePool) (face : CardFace) (rest : List CardFace) :
    pool.attemptAll (face :: rest) = (pool.attempt face).attemptAll rest := rfl

theorem attemptAll_append (pool : TemplatePool) (faces others : List CardFace) :
    pool.attemptAll (faces ++ others) = (pool.attemptAll faces).attemptAll others :=
  List.foldl_append

theorem lookup_attemptAll (pool : TemplatePool) (faces : List CardFace) (label : String) :
    (pool.attemptAll faces).lookup label =
      (pool.lookup label).or (faces.find? (·.label = some label)) := by
  induction faces generalizing pool with
  | nil => simp [attemptAll]
  | cons face rest ih =>
    rw [attemptAll_cons, ih, lookup_attempt, Option.or_assoc, List.find?_cons]
    by_cases hface : face.label = some label <;> simp [hface]

theorem mem_labels_iff_find? :
    label ∈ CardFace.labels faces ↔ faces.find? (·.label = some label) ≠ none := by
  simp [CardFace.labels]

theorem holdsFirst_attemptAll (faces : List CardFace) :
    HoldsFirst faces (attemptAll .empty faces) := by
  have hlookup (label : String) :
      (attemptAll .empty faces).lookup label = faces.find? (·.label = some label) := by
    rw [lookup_attemptAll, lookup_empty, Option.none_or]
  have hmem (label : String) :
      label ∈ (attemptAll .empty faces).labels ↔ label ∈ CardFace.labels faces := by
    rw [mem_labels_iff_lookup, hlookup, mem_labels_iff_find?]
  refine ⟨hlookup, fun label face hface => ?_, ?_, hmem, ?_⟩
  · rw [hlookup] at hface
    simpa using List.find?_some hface
  · exact List.pairwise_map.2 (attemptAll .empty faces).sorted
  · have hnodup : (attemptAll .empty faces).labels.Nodup :=
      Dict.nodup_keys (attemptAll .empty faces).sorted
    have hperm : (attemptAll .empty faces).labels.Perm (CardFace.labels faces).dedup := by
      refine (List.perm_ext_iff_of_nodup hnodup (List.nodup_dedup _)).2 fun label => ?_
      rw [hmem, List.mem_dedup]
    rw [← hperm.length_eq, labels, Dict.keys, List.length_map]
    rfl

/-- Calls that all succeed on faces with labels. -/
theorem attemptAll_of_registerLabelled (h : Deck.registerLabelled pool faces = .ok pool') :
    pool.attemptAll faces = pool' := by
  induction faces generalizing pool with
  | nil =>
    cases h
    rfl
  | cons face rest ih =>
    rw [attemptAll_cons]
    cases hface : face.label with
    | none =>
      rw [Deck.registerLabelled_of_none hface] at h
      rw [attempt_of_error (register_of_none _ hface), ih h]
    | some own =>
      rw [Deck.registerLabelled_of_some hface] at h
      split at h
      · cases h
      · next hfresh =>
        rw [attempt_of_ok ((register_of_some _ hface).trans (if_neg hfresh)), ih h]

/-- Faces with labels of their own may be registered in any order. -/
theorem attemptAll_perm (hperm : faces.Perm others) (hlabels : (CardFace.labels faces).Nodup) :
    attemptAll .empty faces = attemptAll .empty others := by
  have hregister {faces : List CardFace} (h : (CardFace.labels faces).Nodup) :
      ∃ pool, Deck.registerLabelled .empty faces = .ok pool :=
    Deck.exists_registerLabelled_iff.2 ⟨h, fun label _ => lookup_empty label⟩
  obtain ⟨pool, hpool⟩ := hregister hlabels
  obtain ⟨pool', hpool'⟩ := hregister ((hperm.filterMap _).nodup_iff.1 hlabels)
  rw [attemptAll_of_registerLabelled hpool, attemptAll_of_registerLabelled hpool']
  refine eq_of_lookup fun label => Option.ext fun face => ?_
  rw [Deck.lookup_registerLabelled hpool, Deck.lookup_registerLabelled hpool', hperm.mem_iff]

/-- After any calls a pool has the first face with each label and nothing else. A call succeeds
exactly for a face with a label that none before it had, and one that fails leaves the pool as it
was, and could have been left out. If the labels differ, faces that are registered in another order
give a pool with the same faces and labels, in which every face has the same composition or fails
alike. -/
theorem attemptAll_laws (faces : List CardFace) :
    HoldsFirst faces (attemptAll .empty faces) ∧
    (∀ before face behind, faces = before ++ face :: behind →
      ((∃ pool, register face (attemptAll .empty before) = .ok () pool) ↔
        ∃ label, face.label = some label ∧ label ∉ CardFace.labels before) ∧
      ∀ fault pool, register face (attemptAll .empty before) = .error fault pool →
        pool = attemptAll .empty before ∧
          attemptAll .empty (before ++ [face]) = attemptAll .empty before ∧
          attemptAll .empty faces = attemptAll .empty (before ++ behind)) ∧
    ∀ others, faces.Perm others → (CardFace.labels faces).Nodup →
      (∀ label, (attemptAll .empty faces).lookup label = (attemptAll .empty others).lookup label) ∧
      (attemptAll .empty faces).labels = (attemptAll .empty others).labels ∧
      ∀ face, (attemptAll .empty faces).compose face = (attemptAll .empty others).compose face := by
  refine ⟨holdsFirst_attemptAll faces, ?_, ?_⟩
  · rintro before face behind rfl
    refine ⟨?_, fun fault pool hfault => ?_⟩
    · rw [exists_register_iff]
      refine exists_congr fun label => and_congr_right fun _ => ?_
      rw [← (holdsFirst_attemptAll before).mem_labels_iff, mem_labels_iff_lookup, not_not]
    · have hlast : attemptAll .empty (before ++ [face]) = attemptAll .empty before := by
        rw [attemptAll_append]
        exact attempt_of_error hfault
      refine ⟨eq_of_register_error hfault, hlast, ?_⟩
      rw [List.append_cons, attemptAll_append, hlast, ← attemptAll_append]
  · intro others hperm hlabels
    rw [attemptAll_perm hperm hlabels]
    exact ⟨fun _ => rfl, rfl, fun _ => rfl⟩

end TemplatePool

end CardPress
