import CardPress.Proofs.Outcome

/-!
# Computations that go alike

Two computations are related if from related states they end alike: with the same result in states
that are related for it, or with the same fault in states that are related for faults. What is known
of two runs follows from this, and what is known of one run as well: relate it to itself.

## Main definitions

* `Generation.Related` — computations that go alike, with relations before and after.
* `Generation.Agree` — one relation is kept throughout.
* `Generation.Same` — the relation for what is known of one run.
-/

namespace CardPress.Generation

variable {α β : Type}

/-- Ends with one result or with one fault. -/
inductive Alike (Q : α → State → State → Prop) (E : State → State → Prop) :
    EStateM.Result Fault State α → EStateM.Result Fault State α → Prop where
  | ok {a : α} {s t : State} (h : Q a s t) : Alike Q E (.ok a s) (.ok a t)
  | error {fault : Fault} {s t : State} (h : E s t) : Alike Q E (.error fault s) (.error fault t)

/-- From states related before, computations end alike. -/
def Related (P : State → State → Prop) (x y : Generation α) (Q : α → State → State → Prop)
    (E : State → State → Prop) : Prop :=
  ∀ s t, P s t → Alike Q E (x s) (y t)

/-- Computations that end alike and keep a relation. -/
abbrev Agree (R : State → State → Prop) (x y : Generation α) : Prop :=
  Related R x y (fun _ => R) R

variable {P E R : State → State → Prop} {Q : α → State → State → Prop}

theorem Related.mono {P' E' : State → State → Prop} {Q' : α → State → State → Prop}
    {x y : Generation α} (h : Related P x y Q E) (hP : ∀ s t, P' s t → P s t)
    (hQ : ∀ a s t, Q a s t → Q' a s t) (hE : ∀ s t, E s t → E' s t) : Related P' x y Q' E' := by
  intro s t hst
  have hr := h s t (hP s t hst)
  generalize x s = r, y t = r' at hr ⊢
  cases hr with
  | ok h => exact .ok (hQ _ _ _ h)
  | error h => exact .error (hE _ _ h)

theorem Related.bind {Q' : β → State → State → Prop} {x y : Generation α}
    {f g : α → Generation β} (hx : Related P x y Q E)
    (hf : ∀ a, Related (Q a) (f a) (g a) Q' E) : Related P (x >>= f) (y >>= g) Q' E := by
  intro s t hst
  show Alike Q' E (EStateM.bind x f s) (EStateM.bind y g t)
  have hr := hx s t hst
  simp only [EStateM.bind]
  generalize x s = r, y t = r' at hr ⊢
  cases hr with
  | ok h => exact hf _ _ _ h
  | error h => exact .error h

theorem Related.pure {a : α} (h : ∀ s t, P s t → Q a s t) :
    Related P (Pure.pure a) (Pure.pure a) Q E :=
  fun s t hst => .ok (h s t hst)

/-- Ending alike is ending in the same way where related states are the same. -/
theorem Alike.eq_of {r r' : EStateM.Result Fault State α} (h : Alike (fun _ => R) R r r')
    (hR : ∀ s t, R s t → s = t) : r = r' := by
  cases h with
  | ok h => rw [hR _ _ h]
  | error h => rw [hR _ _ h]

/-- One state, of which something holds. -/
def Same (P : State → Prop) (s t : State) : Prop :=
  s = t ∧ P s

theorem related_modify {f g : State → State} {Q : Unit → State → State → Prop}
    (h : ∀ s t, P s t → Q () (f s) (g t)) :
    Related P (modify f : Generation Unit) (modify g) Q E :=
  fun s t hst => .ok (h s t hst)

theorem alike_same_iff {P : State → Prop} {x : Generation α} {s : State} :
    Alike (fun _ => Same P) (Same P) (x s) (x s) ↔ P (stateAfter x s) := by
  rw [stateAfter]
  generalize x s = r
  constructor
  · rintro (⟨-, h⟩ | ⟨-, h⟩)
    · exact h
    · exact h
  · cases r with
    | ok a t => exact fun h => .ok ⟨rfl, h⟩
    | error fault t => exact fun h => .error ⟨rfl, h⟩

/-- What is known of a state and kept by a computation is known of the state in which it ends. -/
theorem agree_same_iff {P : State → Prop} {x : Generation α} :
    Agree (Same P) x x ↔ ∀ s, P s → P (stateAfter x s) := by
  constructor
  · exact fun h s hs => alike_same_iff.1 (h s s ⟨rfl, hs⟩)
  · rintro h s t ⟨rfl, hs⟩
    exact alike_same_iff.2 (h s hs)

/-- From a state of which that is known, computations that go alike are the same. -/
theorem Agree.apply_eq {P : State → Prop} {x y : Generation α} (h : Agree (Same P) x y) {s : State}
    (hs : P s) : x s = y s :=
  (h s s ⟨rfl, hs⟩).eq_of fun _ _ h => h.1

/-- Going alike with what is the same from states of which something is known. -/
theorem agree_same_of_eq {P : State → Prop} {x y : Generation α} (h : Agree (Same P) x x)
    (hxy : ∀ s, P s → x s = y s) : Agree (Same P) x y := by
  rintro s t ⟨rfl, hs⟩
  rw [← hxy s hs]
  exact h s s ⟨rfl, hs⟩

/-- Faults that come in another form come in the same one. -/
theorem Related.mapFault {x y : Generation α} (h : Related P x y Q E) (f : Fault → Fault) :
    Related P (Generation.mapFault f x) (Generation.mapFault f y) Q E := by
  intro s t hst
  show Alike Q E (EStateM.adaptExcept f x s) (EStateM.adaptExcept f y t)
  have hr := h s t hst
  simp only [EStateM.adaptExcept]
  generalize x s = r, y t = r' at hr ⊢
  cases hr with
  | ok h => exact .ok h
  | error h => exact .error h

/-- What is done in a draft of its own leaves the old draft as it is. -/
theorem Related.inNewDraft {P' E' : State → State → Prop} {Q' : α → State → State → Prop}
    {x y : Generation α} (h : Related P x y Q E)
    (hnew : ∀ s t, P' s t → P (.fresh s.run) (.fresh t.run))
    (hok : ∀ s t a s' t', P' s t → Q a s' t' →
      Q' a { s with run := s'.run } { t with run := t'.run })
    (hfault : ∀ s t s' t', P' s t → E s' t' →
      E' { s with run := s'.run } { t with run := t'.run }) :
    Related P' (Generation.inNewDraft x) (Generation.inNewDraft y) Q' E' := by
  intro s t hst
  have hr := h _ _ (hnew s t hst)
  simp only [Generation.inNewDraft]
  generalize x _ = r, y _ = r' at hr ⊢
  cases hr with
  | ok h => exact .ok (hok _ _ _ _ _ hst h)
  | error h => exact .error (hfault _ _ _ _ hst h)

/-- Going alike from equal states is being equal. -/
theorem agree_eq_iff {x y : Generation α} : Agree Eq x y ↔ x = y := by
  constructor
  · exact fun h => funext fun s => (h s s rfl).eq_of fun _ _ => id
  · rintro rfl s t rfl
    cases x s with
    | ok a s' => exact .ok rfl
    | error fault s' => exact .error rfl

/-- States of one run, whatever their drafts. -/
def SameRun (s t : State) : Prop :=
  s.run = t.run

/-- What is done in a draft of its own does not depend on the draft from before. -/
theorem agree_inNewDraft_run (x : Generation α) :
    Agree SameRun (Generation.inNewDraft x) (Generation.inNewDraft x) := by
  refine (agree_eq_iff.2 rfl).inNewDraft (fun s t hst => ?_) (fun s t a s' t' _ h => ?_)
    (fun s t s' t' _ h => ?_)
  · rw [SameRun] at hst
    rw [hst]
  · rw [SameRun, h]
  · rw [SameRun, h]

/-- It leaves that draft as it is, and all there is but the run. -/
theorem agree_inNewDraft_of_run {P : State → Prop} (hP : ∀ s run, P s → P { s with run := run })
    (x : Generation α) :
    Agree (Same P) (Generation.inNewDraft x) (Generation.inNewDraft x) :=
  (agree_eq_iff.2 rfl).inNewDraft (fun s t h => by rw [h.1])
    (fun s t a s' t' h h' => ⟨by rw [h.1, h'], hP s s'.run h.2⟩)
    (fun s t s' t' h h' => ⟨by rw [h.1, h'], hP s s'.run h.2⟩)

theorem agree_inNewDraft_draft (P : Draft → Prop) (x : Generation α) :
    Agree (Same fun s => P s.draft) (Generation.inNewDraft x) (Generation.inNewDraft x) :=
  agree_inNewDraft_of_run (fun _ _ => id) x

namespace Agree

/-- From related states computations that agree give one outcome. -/
theorem outcome_eq {x y : Generation α} (h : Agree R x y) {s t : State} (hst : R s t) :
    outcome x s = outcome y t ∧ R (stateAfter x s) (stateAfter y t) := by
  have hr := h s t hst
  rw [outcome, outcome, stateAfter, stateAfter]
  generalize x s = r, y t = r' at hr ⊢
  cases hr with
  | ok h => exact ⟨rfl, h⟩
  | error h => exact ⟨rfl, h⟩

theorem pure (a : α) : Agree R (Pure.pure a) (Pure.pure a) :=
  Related.pure fun _ _ => id

theorem throw (fault : Fault) :
    Agree R (MonadExcept.throw fault : Generation α) (MonadExcept.throw fault) :=
  fun _ _ hst => .error hst

theorem ofExcept (x : Except Fault α) :
    Agree R (monadLift x : Generation α) (monadLift x) := by
  cases x with
  | error fault => exact throw fault
  | ok a => exact pure a

/-- What is done with the state read. -/
theorem get_bind {f g : State → Generation α}
    (h : ∀ s t, R s t → Alike (fun _ => R) R (f s s) (g t t)) : Agree R (get >>= f) (get >>= g) :=
  fun s t hst => h s t hst

theorem forM {f g : α → Generation Unit} (h : ∀ a, Agree R (f a) (g a)) (xs : List α) :
    Agree R (ForM.forM xs f) (ForM.forM xs g) := by
  induction xs with
  | nil => exact pure ()
  | cons x rest ih =>
    rw [List.forM_cons, List.forM_cons]
    exact (h x).bind fun _ => ih

end Agree

end CardPress.Generation
