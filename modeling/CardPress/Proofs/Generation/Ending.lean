import CardPress.Proofs.Outcome

/-!
# How computations end

Something done while a face is drawn either gives something or ends with a fault. `Ends Q E x` says
that whatever `x` gives satisfies `Q` and every fault it ends with satisfies `E`, in whatever state
it begins; there is one rule for each way to put computations together.

## Main definitions

* `Generation.Ends` — what a computation gives and what its faults are.
* `Generation.Raises` — what its faults are.
* `Fails` — what the fault of a reading is.
-/

namespace CardPress

variable {α β : Type}

/-- If there is a fault, it is one of these. -/
def Fails (E : Fault → Prop) (x : Except Fault α) : Prop :=
  ∀ fault, x = .error fault → E fault

section Fails

variable {E : Fault → Prop}

@[simp] theorem fails_ok (a : α) : Fails E (.ok a) := by
  simp [Fails]

@[simp] theorem fails_pure (a : α) : Fails E (pure a) := fails_ok a

@[simp] theorem fails_error_iff {fault : Fault} :
    Fails E (.error fault : Except Fault α) ↔ E fault := by
  simp [Fails]

@[simp] theorem fails_throw_iff {fault : Fault} :
    Fails E (throw fault : Except Fault α) ↔ E fault :=
  fails_error_iff

@[simp] theorem fails_bind_iff {x : Except Fault α} {f : α → Except Fault β} :
    Fails E (x >>= f) ↔ Fails E x ∧ ∀ a, x = .ok a → Fails E (f a) := by
  cases x with
  | error fault =>
    show Fails E (.error fault : Except Fault β) ↔ _
    simp
  | ok a =>
    show Fails E (f a) ↔ _
    simp

@[simp] theorem fails_map_iff {x : Except Fault α} {f : α → β} :
    Fails E (f <$> x) ↔ Fails E x := by
  cases x <;> simp

/-- A traversal fails as its items do. -/
theorem fails_mapM {f : α → Except Fault β} (h : ∀ a, Fails E (f a)) (xs : List α) :
    Fails E (xs.mapM f) := by
  induction xs with
  | nil => simp
  | cons a rest ih => simp [h, ih]

theorem fails_foldlM {f : β → α → Except Fault β} (h : ∀ b a, Fails E (f b a))
    (xs : List α) (b : β) : Fails E (xs.foldlM f b) := by
  induction xs generalizing b with
  | nil => simp
  | cons a rest ih => simp [h, ih]

theorem fails_mapError {F : Fault → Prop} {g : Fault → Fault} {x : Except Fault α}
    (h : Fails F x) (hg : ∀ fault, F fault → E (g fault)) :
    Fails E (x.mapError g) := by
  cases x with
  | error fault => exact fails_error_iff.2 (hg fault (h fault rfl))
  | ok a => exact fails_ok a

end Fails

namespace Generation

/-- What is given satisfies `Q`, and a fault satisfies `E`. -/
structure Ends (Q : α → Prop) (E : Fault → Prop) (x : Generation α) : Prop where
  gives : ∀ {s a t}, x s = .ok a t → Q a
  fails : ∀ {s fault t}, x s = .error fault t → E fault

namespace Ends

variable {Q : α → Prop} {Q' : β → Prop} {E : Fault → Prop} {x : Generation α}

/-- Nothing is known of any computation. -/
theorem trivially (x : Generation α) : Ends (fun _ => True) (fun _ => True) x :=
  ⟨fun _ => trivial, fun _ => trivial⟩

theorem mono {R : α → Prop} {F : Fault → Prop} (h : Ends Q E x) (hQ : ∀ a, Q a → R a)
    (hE : ∀ fault, E fault → F fault) : Ends R F x :=
  ⟨fun hs => hQ _ (h.gives hs), fun hs => hE _ (h.fails hs)⟩

theorem bind {f : α → Generation β} (hx : Ends Q E x) (hf : ∀ a, Q a → Ends Q' E (f a)) :
    Ends Q' E (x >>= f) := by
  constructor
  · intro s b u h
    obtain ⟨a, t, ha, h⟩ := bind_ok_iff.1 h
    exact (hf a (hx.gives ha)).gives h
  · intro s fault u h
    cases ha : x s with
    | error first t =>
      rw [bind_of_error _ ha] at h
      cases h
      exact hx.fails ha
    | ok a t =>
      rw [bind_of_ok _ ha] at h
      exact (hf a (hx.gives ha)).fails h

/-- What comes last decides if nothing is asked of faults. -/
theorem after {f : α → Generation β} (hf : ∀ a, Ends Q' (fun _ => True) (f a)) :
    Ends Q' (fun _ => True) (x >>= f) :=
  (trivially x).bind fun a _ => hf a

theorem pure {a : α} (h : Q a) : Ends Q E (Pure.pure a) := by
  constructor
  · intro s b t hb
    rwa [← (pure_ok_iff.1 hb).1]
  · intro s fault t hfault
    cases hfault

theorem throw {fault : Fault} (h : E fault) :
    Ends Q E (MonadExcept.throw fault : Generation α) := by
  constructor
  · intro s a t ha
    cases ha
  · intro s other t hother
    cases hother
    exact h

theorem ofExcept {x : Except Fault α} (hx : Fails E x) :
    Ends (fun a => x = .ok a) E (monadLift x : Generation α) := by
  cases x with
  | error fault => exact throw (hx fault rfl)
  | ok a => exact pure rfl

theorem of_modify (f : State → State) :
    Ends (fun _ => True) E (modify f : Generation Unit) := by
  constructor
  · intro s u t _
    trivial
  · intro s fault t h
    cases h

theorem freshStamp : Ends (fun _ => True) E Generation.freshStamp := by
  constructor
  · intro s n t _
    trivial
  · intro s fault t h
    cases h

/-- What is done with the state read. -/
theorem get_bind {f : State → Generation α} (h : ∀ s, Ends Q E (f s)) : Ends Q E (get >>= f) :=
  ⟨fun {s _ _} hs => (h s).gives hs, fun {s _ _} hs => (h s).fails hs⟩

/-- Faults in another form. -/
theorem mapFault {F : Fault → Prop} {f : Fault → Fault} (h : Ends Q F x)
    (hf : ∀ fault, F fault → E (f fault)) : Ends Q E (Generation.mapFault f x) := by
  constructor
  · intro s a t ha
    simp only [Generation.mapFault, EStateM.adaptExcept] at ha
    cases hx : x s with
    | error fault u => simp [hx] at ha
    | ok b u =>
      simp only [hx, EStateM.Result.ok.injEq] at ha
      rw [← ha.1]
      exact h.gives hx
  · intro s fault t hfault
    simp only [Generation.mapFault, EStateM.adaptExcept] at hfault
    cases hx : x s with
    | ok b u => simp [hx] at hfault
    | error first u =>
      simp only [hx, EStateM.Result.error.injEq] at hfault
      rw [← hfault.1]
      exact hf first (h.fails hx)

theorem inNewDraft (h : Ends Q E x) : Ends Q E (Generation.inNewDraft x) := by
  constructor
  · intro s a t ha
    simp only [Generation.inNewDraft] at ha
    split at ha
    · next b u hb =>
      cases ha
      exact h.gives hb
    · cases ha
  · intro s fault t hfault
    simp only [Generation.inNewDraft] at hfault
    split at hfault
    · cases hfault
    · next first u hfirst =>
      cases hfault
      exact h.fails hfirst

/-- What is known of what is given, and of the fault, when something is performed. -/
theorem perform (h : Ends Q E x) (run : Run) :
    (∀ a, (run.perform x).1 = .ok a → Q a) ∧
      ∀ fault, (run.perform x).1 = .error fault → E fault := by
  simp only [Run.perform]
  split
  · next b s hs =>
    constructor
    · rintro a ⟨⟩
      exact h.gives hs
    · rintro fault ⟨⟩
  · next first s hs =>
    constructor
    · rintro a ⟨⟩
    · rintro fault ⟨⟩
      exact h.fails hs

end Ends

/-! ## Faults alone -/

/-- Every fault satisfies `E`, whatever is given. -/
abbrev Raises (E : Fault → Prop) (x : Generation α) : Prop :=
  Ends (fun _ => True) E x

namespace Raises

variable {E : Fault → Prop}

theorem of_ends {Q : α → Prop} {x : Generation α} (h : Ends Q E x) : Raises E x :=
  h.mono (fun _ _ => trivial) fun _ => id

theorem bind {x : Generation α} {f : α → Generation β} (hx : Raises E x)
    (hf : ∀ a, Raises E (f a)) : Raises E (x >>= f) :=
  Ends.bind hx fun a _ => hf a

theorem pure (a : α) : Raises E (Pure.pure a) :=
  Ends.pure trivial

theorem ofExcept {x : Except Fault α} (h : Fails E x) : Raises E (monadLift x : Generation α) :=
  of_ends (Ends.ofExcept h)

theorem mapM {f : α → Generation β} {xs : List α} (h : ∀ a ∈ xs, Raises E (f a)) :
    Raises E (xs.mapM f) := by
  induction xs with
  | nil => exact pure []
  | cons a rest ih =>
    rw [List.forall_mem_cons] at h
    rw [List.mapM_cons]
    exact h.1.bind fun b => (ih h.2).bind fun bs => pure _

theorem foldlM {f : β → α → Generation β} {xs : List α} (h : ∀ b, ∀ a ∈ xs, Raises E (f b a))
    (b : β) : Raises E (xs.foldlM f b) := by
  induction xs generalizing b with
  | nil => exact pure b
  | cons a rest ih =>
    rw [List.foldlM_cons]
    exact (h b a List.mem_cons_self).bind
      (ih fun b a ha => h b a (List.mem_cons_of_mem _ ha))

theorem dictMapM {f : α → Generation β} (h : ∀ a, Raises E (f a)) (d : Dict α) :
    Raises E (d.mapM f) :=
  (mapM fun e _ => (h e.2).bind fun _ => pure _).bind fun _ => pure _

end Raises

end Generation

end CardPress
