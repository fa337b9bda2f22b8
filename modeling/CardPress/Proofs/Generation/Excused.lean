import CardPress.Proofs.Generation.Related

/-!
# Computations that go alike unless a fault excuses it

Some faults end a drawing for good, as nothing in it takes a fault back. So where one run may end
with such a fault and another one goes on, all that is asked of them is that they go alike unless
the first one has ended so. This is kept by putting computations together just as going alike is.

## Main definitions

* `Fault.KeptInSteps`, `Fault.Causes` — faults that a step hands on as faults of the same kind.
* `Generation.AgreeUnless` — going alike unless the first computation ends with an excused fault.
-/

namespace CardPress

/-- Faults with which there is what becomes of them in a step. -/
def Fault.KeptInSteps (F : Fault → Prop) : Prop :=
  ∀ (label : Option String) (index : Nat) (kind : String) (source : Fault),
    F source → F (.step label index kind source)

theorem Fault.keptInSteps_false : Fault.KeptInSteps fun _ => False :=
  fun _ _ _ _ => id

/-- One fault is the root cause of another. -/
def Fault.Causes (cause fault : Fault) : Prop :=
  fault.rootCause = cause

/-- A fault keeps its root cause in steps. -/
theorem Fault.keptInSteps_causes (cause : Fault) : Fault.KeptInSteps (Causes cause) :=
  fun _ _ _ _ h => h

namespace Generation

variable {α β : Type}

/-- From related states computations end alike and keep the relation, unless the first one ends with
a fault that is excused. -/
def AgreeUnless (F : Fault → Prop) (R : State → State → Prop) (x y : Generation α) : Prop :=
  ∀ s t, R s t → (∃ fault u, x s = .error fault u ∧ F fault) ∨ Alike (fun _ => R) R (x s) (y t)

variable {F : Fault → Prop} {R : State → State → Prop}

theorem Agree.unless {x y : Generation α} (h : Agree R x y) : AgreeUnless F R x y :=
  fun s t hst => .inr (h s t hst)

namespace AgreeUnless

/-- Where no fault is excused, this is going alike. -/
theorem agree {x y : Generation α} (h : AgreeUnless (fun _ => False) R x y) : Agree R x y := by
  intro s t hst
  rcases h s t hst with ⟨_, _, _, hfalse⟩ | halike
  · exact hfalse.elim
  · exact halike

/-- From equal states this is being the same, unless that is excused. -/
theorem apply_eq {x y : Generation α} (h : AgreeUnless F Eq x y) (s : State) :
    (∃ fault u, x s = .error fault u ∧ F fault) ∨ x s = y s :=
  (h s s rfl).imp_right fun halike => halike.eq_of fun _ _ => id

/-- What is the same goes alike. -/
theorem refl (x : Generation α) : AgreeUnless F Eq x x :=
  (agree_eq_iff.2 rfl).unless

/-- An excused fault goes with anything. -/
theorem excused {fault : Fault} (h : F fault) (y : Generation α) :
    AgreeUnless F R (MonadExcept.throw fault) y :=
  fun s _ _ => .inl ⟨fault, s, rfl, h⟩

theorem pure (a : α) : AgreeUnless F R (Pure.pure a) (Pure.pure a) :=
  (Agree.pure a).unless

theorem throw (fault : Fault) :
    AgreeUnless F R (MonadExcept.throw fault : Generation α) (MonadExcept.throw fault) :=
  (Agree.throw fault).unless

theorem ofExcept (x : Except Fault α) :
    AgreeUnless F R (monadLift x : Generation α) (monadLift x) :=
  (Agree.ofExcept x).unless

theorem bind {x y : Generation α} {f g : α → Generation β} (hx : AgreeUnless F R x y)
    (hf : ∀ a, AgreeUnless F R (f a) (g a)) : AgreeUnless F R (x >>= f) (y >>= g) := by
  intro s t hst
  rcases hx s t hst with ⟨fault, u, hfault, hF⟩ | halike
  · exact .inl ⟨fault, u, bind_of_error f hfault, hF⟩
  · show _ ∨ Alike _ _ (EStateM.bind x f s) (EStateM.bind y g t)
    have hbind : (x >>= f) s = EStateM.bind x f s := rfl
    rw [hbind]
    simp only [EStateM.bind]
    generalize x s = r, y t = r' at halike ⊢
    cases halike with
    | ok h => exact hf _ _ _ h
    | error h => exact .inr (.error h)

/-- What is done with the state read. -/
theorem get_bind {f g : State → Generation α}
    (h : ∀ s t, R s t → AgreeUnless F R (f s) (g t)) : AgreeUnless F R (get >>= f) (get >>= g) :=
  fun s t hst => h s t hst s t hst

theorem mapM {f g : α → Generation β} (h : ∀ a, AgreeUnless F R (f a) (g a)) (xs : List α) :
    AgreeUnless F R (xs.mapM f) (xs.mapM g) := by
  induction xs with
  | nil => exact pure []
  | cons x rest ih =>
    rw [List.mapM_cons, List.mapM_cons]
    exact (h x).bind fun y => ih.bind fun ys => pure _

theorem foldlM {f g : β → α → Generation β} (h : ∀ b a, AgreeUnless F R (f b a) (g b a))
    (xs : List α) (b : β) : AgreeUnless F R (xs.foldlM f b) (xs.foldlM g b) := by
  induction xs generalizing b with
  | nil => exact pure b
  | cons x rest ih =>
    rw [List.foldlM_cons, List.foldlM_cons]
    exact (h b x).bind ih

theorem forM {f g : α → Generation Unit} (h : ∀ a, AgreeUnless F R (f a) (g a)) (xs : List α) :
    AgreeUnless F R (ForM.forM xs f) (ForM.forM xs g) := by
  induction xs with
  | nil => exact pure ()
  | cons x rest ih =>
    rw [List.forM_cons, List.forM_cons]
    exact (h x).bind fun _ => ih

theorem dictMapM {f g : α → Generation β} (h : ∀ a, AgreeUnless F R (f a) (g a)) (d : Dict α) :
    AgreeUnless F R (d.mapM f) (d.mapM g) :=
  bind (mapM (fun e => bind (h e.2) fun _ => pure _) d.entries) fun _ => pure _

/-- Faults that come in another form are still excused if that form is. -/
theorem mapFault {x y : Generation α} {f : Fault → Fault} (h : AgreeUnless F R x y)
    (hf : ∀ fault, F fault → F (f fault)) :
    AgreeUnless F R (Generation.mapFault f x) (Generation.mapFault f y) := by
  intro s t hst
  simp only [Generation.mapFault, EStateM.adaptExcept]
  rcases h s t hst with ⟨fault, u, hfault, hF⟩ | halike
  · exact .inl ⟨f fault, u, by rw [hfault], hf fault hF⟩
  · generalize x s = r, y t = r' at halike ⊢
    cases halike with
    | ok h => exact .inr (.ok h)
    | error h => exact .inr (.error h)

/-- What is done in a draft of its own, where beginning with it and going back keep the relation. -/
theorem inNewDraft {x y : Generation α} (h : AgreeUnless F R x y)
    (hnew : ∀ {s t}, R s t → R (.fresh s.run) (.fresh t.run))
    (hold : ∀ {s t s' t'}, R s t → R s' t' → R { s with run := s'.run } { t with run := t'.run }) :
    AgreeUnless F R (Generation.inNewDraft x) (Generation.inNewDraft y) := by
  intro s t hst
  simp only [Generation.inNewDraft]
  rcases h _ _ (hnew hst) with ⟨fault, u, hfault, hF⟩ | halike
  · exact .inl ⟨fault, _, by rw [hfault], hF⟩
  · generalize x _ = r, y _ = r' at halike ⊢
    cases halike with
    | ok h => exact .inr (.ok (hold hst h))
    | error h => exact .inr (.error (hold hst h))

/-- Where nothing comes of the first computation, what would be done with it does not matter. -/
theorem bind_of_never_ok {x y : Generation α} (h : AgreeUnless F R x y)
    (hnever : ∀ s a t, x s ≠ .ok a t) (f g : α → Generation β) :
    AgreeUnless F R (x >>= f) (y >>= g) := by
  intro s t hst
  obtain ⟨fault, u, hx⟩ : ∃ fault u, x s = .error fault u := by
    cases hx : x s with
    | ok a u => exact absurd hx (hnever s a u)
    | error fault u => exact ⟨fault, u, rfl⟩
  have hxy := h s t hst
  rw [hx] at hxy
  rw [bind_of_error f hx]
  rcases hxy with ⟨_, _, hfault, hF⟩ | halike
  · cases hfault
    exact .inl ⟨fault, u, rfl, hF⟩
  · cases hy : y t with
    | ok b v =>
      rw [hy] at halike
      cases halike
    | error fault' v =>
      rw [hy] at halike
      cases halike with
      | error h => exact .inr (by rw [bind_of_error g hy]; exact .error h)

/-- What is performed in two ways that go alike comes to the same, unless the first way ends with an
excused fault. -/
theorem perform {x y : Generation α} (h : AgreeUnless F R x y) (hR : ∀ s, R s s) (run : Run) :
    (∃ fault, (run.perform x).1 = .error fault ∧ F fault) ∨
      (run.perform x).1 = (run.perform y).1 ∧
        ∃ s t, R s t ∧ (run.perform x).2 = s.run ∧ (run.perform y).2 = t.run := by
  simp only [Run.perform]
  rcases h _ _ (hR _) with ⟨fault, u, hfault, hF⟩ | halike
  · exact .inl ⟨fault, by rw [hfault], hF⟩
  · right
    generalize x _ = r, y _ = r' at halike
    cases halike with
    | ok h => exact ⟨rfl, _, _, h, rfl, rfl⟩
    | error h => exact ⟨rfl, _, _, h, rfl, rfl⟩

end AgreeUnless

end Generation

end CardPress
