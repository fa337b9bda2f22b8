import CardPress.Generation.State
import Mathlib

/-!
# Outcomes

How a successful computation comes apart into its steps, for those that only succeed or fail and for
those that also change the state of a generation. The latter give something and end in a state, be
it with a fault.
-/

namespace CardPress

variable {α β : Type}

theorem bind_eq_ok_iff {ε : Type} {x : Except ε α} {f : α → Except ε β} {b : β} :
    x >>= f = .ok b ↔ ∃ a, x = .ok a ∧ f a = .ok b := by
  constructor
  · intro h
    cases x with
    | error e => cases h
    | ok a => exact ⟨a, rfl, h⟩
  · rintro ⟨a, rfl, h⟩
    exact h

theorem bind_eq_error_iff {ε : Type} {x : Except ε α} {f : α → Except ε β} {e : ε} :
    x >>= f = .error e ↔ x = .error e ∨ ∃ a, x = .ok a ∧ f a = .error e := by
  cases x with
  | error e' => simp [bind, Except.bind]
  | ok a => simp [bind, Except.bind]

theorem mapError_eq_ok_iff {ε δ : Type} {x : Except ε α} {f : ε → δ} {a : α} :
    x.mapError f = .ok a ↔ x = .ok a := by
  cases x <;> simp [Except.mapError]

/-- What comes to the same in another form fails alike, or gives what has one form. -/
theorem cases_of_map_eq {ε : Type} {f : α → β} {x y : Except ε α} (h : x.map f = y.map f) :
    (∃ e, x = .error e ∧ y = .error e) ∨ ∃ a b, x = .ok a ∧ y = .ok b ∧ f a = f b := by
  cases x with
  | error e =>
    cases y with
    | error e' =>
      cases h
      exact .inl ⟨e, rfl, rfl⟩
    | ok b => cases h
  | ok a =>
    cases y with
    | error e => cases h
    | ok b => exact .inr ⟨a, b, rfl, rfl, Except.ok.inj h⟩

namespace Generation

/-- What something gives, apart from the state it ends in. -/
def outcome (x : Generation α) (s : State) : Except Fault α :=
  match x s with
  | .ok a _ => .ok a
  | .error fault _ => .error fault

/-- The state in which something ends. -/
def stateAfter (x : Generation α) (s : State) : State :=
  match x s with
  | .ok _ t => t
  | .error _ t => t

variable {s s' : State}

theorem eq_ok_iff {x : Generation α} {a : α} :
    x s = .ok a s' ↔ outcome x s = .ok a ∧ stateAfter x s = s' := by
  rw [outcome, stateAfter]
  cases x s <;> simp

theorem bind_ok_iff {x : Generation α} {f : α → Generation β} {b : β} :
    (x >>= f) s = .ok b s' ↔ ∃ a t, x s = .ok a t ∧ f a t = .ok b s' := by
  show EStateM.bind x f s = .ok b s' ↔ _
  unfold EStateM.bind
  cases x s with
  | error e t => simp
  | ok a t => simp

theorem bind_error_iff {x : Generation α} {f : α → Generation β} {fault : Fault} :
    (x >>= f) s = .error fault s' ↔
      x s = .error fault s' ∨ ∃ a t, x s = .ok a t ∧ f a t = .error fault s' := by
  show EStateM.bind x f s = .error fault s' ↔ _
  unfold EStateM.bind
  cases x s with
  | error e t => simp
  | ok a t => simp

theorem mapFault_ok_iff {f : Fault → Fault} {x : Generation α} {a : α} :
    mapFault f x s = .ok a s' ↔ x s = .ok a s' := by
  show EStateM.adaptExcept f x s = _ ↔ _
  simp only [EStateM.adaptExcept]
  cases x s <;> simp

theorem mapFault_error_iff {f : Fault → Fault} {x : Generation α} {fault : Fault} :
    mapFault f x s = .error fault s' ↔ ∃ source, x s = .error source s' ∧ fault = f source := by
  show EStateM.adaptExcept f x s = _ ↔ _
  simp only [EStateM.adaptExcept]
  cases x s with
  | ok a u => simp
  | error source u =>
    simp only [EStateM.Result.error.injEq]
    constructor
    · rintro ⟨rfl, rfl⟩
      exact ⟨source, ⟨rfl, rfl⟩, rfl⟩
    · rintro ⟨_, ⟨rfl, rfl⟩, rfl⟩
      exact ⟨rfl, rfl⟩

theorem pure_ok_iff {a b : α} : (pure a : Generation α) s = .ok b s' ↔ a = b ∧ s = s' := by
  show EStateM.Result.ok a s = .ok b s' ↔ _
  simp

theorem get_bind_apply (f : State → Generation α) : (get >>= f) s = f s s := rfl

theorem bind_of_error {x : Generation α} (f : α → Generation β) {fault : Fault} {t : State}
    (h : x s = .error fault t) : (x >>= f) s = .error fault t := by
  show EStateM.bind x f s = .error fault t
  simp only [EStateM.bind, h]

theorem bind_of_ok {x : Generation α} (f : α → Generation β) {a : α} {t : State}
    (h : x s = .ok a t) : (x >>= f) s = f a t := by
  show EStateM.bind x f s = f a t
  simp only [EStateM.bind, h]

theorem mapFault_apply_congr (f : Fault → Fault) {x y : Generation α} {t : State} (h : x s = y t) :
    mapFault f x s = mapFault f y t := by
  show EStateM.adaptExcept f x s = EStateM.adaptExcept f y t
  simp only [EStateM.adaptExcept, h]

theorem mapFault_bind_pure (f : Fault → Fault) (x : Generation α) (g : α → β) :
    mapFault f (x >>= fun a => pure (g a)) = mapFault f x >>= fun a => pure (g a) := by
  funext s
  show EStateM.adaptExcept f (EStateM.bind x _) s = EStateM.bind (EStateM.adaptExcept f x) _ s
  simp only [EStateM.adaptExcept, EStateM.bind]
  cases x s <;> rfl

theorem bind_apply_congr {x y : Generation α} {t : State} (h : x s = y t) (f : α → Generation β) :
    (x >>= f) s = (y >>= f) t := by
  show EStateM.bind x f s = EStateM.bind y f t
  simp only [EStateM.bind, h]

theorem inNewDraft_of_ok {x : Generation α} {a : α} {t : State}
    (h : x (.fresh s.run) = .ok a t) : inNewDraft x s = .ok a { s with run := t.run } := by
  simp only [inNewDraft, h]

theorem inNewDraft_apply_congr {x y : Generation α}
    (h : x (.fresh s.run) = y (.fresh s.run)) : inNewDraft x s = inNewDraft y s := by
  simp only [inNewDraft, h]

/-- Where nothing comes of a computation, what would be done with it does not matter. -/
theorem bind_congr_of_never_ok {x : Generation α} (h : ∀ s a t, x s ≠ .ok a t)
    (f g : α → Generation β) : x >>= f = x >>= g := by
  funext s
  cases hx : x s with
  | ok a t => exact absurd hx (h s a t)
  | error fault t => rw [bind_of_error f hx, bind_of_error g hx]

theorem ofExcept_ok_iff {x : Except Fault α} {a : α} :
    (monadLift x : Generation α) s = .ok a s' ↔ x = .ok a ∧ s = s' := by
  show ofExcept x s = .ok a s' ↔ _
  cases x with
  | error fault => simp [ofExcept, throw, throwThe, MonadExceptOf.throw, EStateM.throw]
  | ok b => simp [ofExcept, pure_ok_iff]

theorem ofExcept_bind_apply (x : Except Fault α) (f : α → Generation β) :
    (monadLift x >>= f) s = match x with
      | .ok a => f a s
      | .error fault => .error fault s := by
  cases x <;> rfl

/-- The results of a list come from its items, each in some state on the way. -/
theorem forall₂_of_mapM_ok {f : α → Generation β} {xs : List α} {ys : List β}
    (h : xs.mapM f s = .ok ys s') :
    List.Forall₂ (fun x y => ∃ t t', f x t = .ok y t') xs ys := by
  induction xs generalizing s s' ys with
  | nil =>
    rw [List.mapM_nil, pure_ok_iff] at h
    cases h.1
    exact .nil
  | cons x rest ih =>
    rw [List.mapM_cons, bind_ok_iff] at h
    obtain ⟨y, t, hy, h⟩ := h
    obtain ⟨ys', t', hys, h⟩ := bind_ok_iff.1 h
    cases (pure_ok_iff.1 h).1
    exact .cons ⟨s, t, hy⟩ (ih hys)

theorem exists_of_mapM_ok {f : α → Generation β} {xs : List α} {ys : List β}
    (h : xs.mapM f s = .ok ys s') (y : β) (hy : y ∈ ys) : ∃ x t t', f x t = .ok y t' := by
  have hf := forall₂_of_mapM_ok h
  clear h
  induction hf with
  | nil => cases hy
  | cons hx _ ih =>
    rcases List.mem_cons.1 hy with rfl | hy
    · exact ⟨_, hx⟩
    · exact ih hy

/-- A list whose items stay as they are stays as it is. -/
theorem mapM_of_forall {f : α → Generation α} {xs : List α}
    (h : ∀ x ∈ xs, ∀ t, f x t = .ok x t) : xs.mapM f s = .ok xs s := by
  induction xs with
  | nil => rfl
  | cons x rest ih =>
    rw [List.forall_mem_cons] at h
    rw [List.mapM_cons, bind_of_ok _ (h.1 s), bind_of_ok _ (ih h.2)]
    rfl

/-- If every item of a list stays as it is or fails in one way, and some do fail, so does the list,
and nothing else happens. -/
theorem mapM_eq_error {f : α → Generation α} {xs : List α} {fault : Fault}
    (h : ∀ x ∈ xs, (∀ t, f x t = .ok x t) ∨ ∀ t, f x t = .error fault t)
    (hfails : ∃ x ∈ xs, ∀ t, f x t = .error fault t) : xs.mapM f s = .error fault s := by
  induction xs with
  | nil =>
    obtain ⟨x, hx, -⟩ := hfails
    cases hx
  | cons x rest ih =>
    rw [List.forall_mem_cons] at h
    rw [List.exists_mem_cons_iff] at hfails
    rw [List.mapM_cons]
    rcases h.1 with hok | hfault
    · have hrest : ∃ y ∈ rest, ∀ t, f y t = .error fault t := by
        refine hfails.resolve_left fun hfault => ?_
        cases (hok s).symm.trans (hfault s)
      rw [bind_of_ok _ (hok s)]
      exact bind_of_error _ (ih h.2 hrest)
    · exact bind_of_error _ (hfault s)

end Generation

end CardPress
