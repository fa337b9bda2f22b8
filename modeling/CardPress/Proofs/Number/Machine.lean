import CardPress.Number.Machine
import Mathlib

/-!
# Computing with checks and without

A computation that checks its numbers either gives nothing or what it gives without the checks. This
is shown number by number, and then for whatever is put together from them.

## Main definitions

* `Machine.Confirms` — what is computed with checks is also computed without them.

## Main results

* `Machine.checked_confirms_wrapped` — a number that has a place keeps all its bits.
-/

namespace CardPress.Machine

variable {α β : Type} {bits : ℕ} {z : ℤ}

/-- What a computation that checks gives is what one that does not check gives. -/
def Confirms (p : Option α) (q : Id α) : Prop :=
  ∀ a, p = some a → q.run = a

namespace Confirms

theorem pure (a : α) : Confirms (some a) (Pure.pure a) := by
  rintro _ ⟨⟩
  rfl

theorem bind {p : Option α} {q : Id α} {f : α → Option β} {g : α → Id β} (h : Confirms p q)
    (hf : ∀ a, Confirms (f a) (g a)) : Confirms (p >>= f) (q >>= g) := by
  intro b hb
  obtain ⟨a, ha, hab⟩ := Option.bind_eq_some_iff.1 hb
  cases h a ha
  exact hf q b hab

theorem foldlM {f : β → α → Option β} {g : β → α → Id β} (h : ∀ b a, Confirms (f b a) (g b a))
    (items : List α) (b : β) : Confirms (items.foldlM f b) (items.foldlM g b) := by
  induction items generalizing b with
  | nil => exact .pure b
  | cons a rest ih =>
    rw [List.foldlM_cons, List.foldlM_cons]
    exact (h b a).bind ih

theorem mapM {f : α → Option β} {g : α → Id β} (h : ∀ a, Confirms (f a) (g a)) (items : List α) :
    Confirms (items.mapM f) (items.mapM g) := by
  induction items with
  | nil => exact .pure []
  | cons a rest ih =>
    rw [List.mapM_cons, List.mapM_cons]
    exact (h a).bind fun b => ih.bind fun bs => .pure (b :: bs)

end Confirms

/-! ## Loops that check -/

theorem mapM_of_forall_some {f : α → β} {g : α → Option β} {items : List α}
    (h : ∀ a ∈ items, g a = some (f a)) : items.mapM g = some (items.map f) := by
  induction items with
  | nil => rfl
  | cons a rest ih =>
    rw [List.mapM_cons, h a List.mem_cons_self, ih fun b hb => h b (List.mem_cons_of_mem a hb)]
    rfl

theorem mapM_eq_none_of_mem {g : α → Option β} {items : List α} {a : α} (ha : a ∈ items)
    (h : g a = none) : items.mapM g = none := by
  induction ha with
  | head rest =>
    rw [List.mapM_cons, h]
    rfl
  | tail b _ ih =>
    rw [List.mapM_cons, ih]
    cases g b <;> rfl

theorem isSome_bind_iff {p : Option α} {f : α → Option β} {P : Prop}
    (h : ∀ a, (f a).isSome ↔ P) : (p >>= f).isSome ↔ p.isSome ∧ P := by
  cases p with
  | none => simp
  | some a => simp [h]

theorem isSome_foldlM_iff {f : β → α → Option β} {P : α → Prop}
    (h : ∀ b a, (f b a).isSome ↔ P a) (items : List α) (b : β) :
    (items.foldlM f b).isSome ↔ ∀ a ∈ items, P a := by
  induction items generalizing b with
  | nil => simp
  | cons a rest ih =>
    rw [List.foldlM_cons, List.forall_mem_cons, isSome_bind_iff ih, h b a]

/-! ## Numbers that have a place -/

theorem checked_eq_some_iff {y : ℤ} : checked bits z = some y ↔ Fits bits z ∧ z = y := by
  simp [checked]

theorem checked_of_fits (h : Fits bits z) : checked bits z = some z :=
  if_pos h

theorem checked_of_not_fits (h : ¬ Fits bits z) : checked bits z = none :=
  if_neg h

theorem fits_iff : Fits bits z ↔ -2 ^ (bits - 1) ≤ z ∧ z < 2 ^ (bits - 1) := by
  rw [Fits, Nat.pow_eq, Nat.cast_pow, Nat.cast_ofNat]

theorem fits_32_iff : Fits 32 z ↔ -2 ^ 31 ≤ z ∧ z < 2 ^ 31 :=
  fits_iff

theorem fits_64_iff : Fits 64 z ↔ -2 ^ 63 ≤ z ∧ z < 2 ^ 63 :=
  fits_iff

/-- A number that has a place keeps all its bits. -/
theorem wrapped_of_fits (hbits : 0 < bits) (h : Fits bits z) : (wrapped bits z).run = z := by
  obtain ⟨hlow, hhigh⟩ := fits_iff.1 h
  obtain ⟨k, rfl⟩ := Nat.exists_eq_add_of_lt hbits
  have hpow : ((Nat.pow 2 (0 + k + 1) : ℕ) : ℤ) = 2 * 2 ^ k := by
    rw [Nat.pow_eq, Nat.cast_pow, Nat.zero_add, pow_succ', Nat.cast_ofNat]
  simp only [Nat.zero_add, Nat.add_sub_cancel] at hlow hhigh hpow
  refine Int.bmod_eq_of_le ?_ ?_
  · simp only [Nat.zero_add, hpow]
    omega
  · simp only [Nat.zero_add, hpow]
    omega

theorem checked_confirms_wrapped (hbits : 0 < bits) (z : ℤ) :
    Confirms (checked bits z) (wrapped bits z) := by
  intro y hy
  obtain ⟨hfits, rfl⟩ := checked_eq_some_iff.1 hy
  exact wrapped_of_fits hbits hfits

end CardPress.Machine
