import CardPress.Value.Order
import Mathlib

/-!
# Laws of comparing

Comparing is partial, but where it answers it is an order: the other way round it gives the opposite
answer, and answers that do not descend add up. Both hold for doubles, of which a NaN compares with
nothing, and through sequences nested to any depth, whatever a difference further ahead hides.
-/

namespace CardPress

/-- What two comparisons in a row add up to if neither descends. -/
theorem compare_eq_then {α : Type} [Ord α] [Std.TransOrd α] {a b c : α}
    (hab : (compare a b).isLE) (hbc : (compare b c).isLE) :
    compare a c = (compare a b).then (compare b c) := by
  cases h : compare a b with
  | lt => exact Std.TransCmp.lt_of_lt_of_isLE h hbc
  | eq => exact Std.TransCmp.congr_left h
  | gt => simp [h] at hab

/-! ## Doubles -/

namespace Double

theorem compare?_eq_some_iff {x y : Float} {o : Ordering} :
    compare? x y = some o ↔ ∃ a b, key? x = some a ∧ key? y = some b ∧ compare a b = o := by
  rw [compare?]
  cases key? x <;> cases key? y <;> simp

theorem compare?_swap (x y : Float) : compare? y x = (compare? x y).map Ordering.swap := by
  simp only [compare?]
  cases key? x with
  | none => cases key? y <;> rfl
  | some a =>
    cases key? y with
    | none => rfl
    | some b => exact congrArg some Std.OrientedCmp.eq_swap

theorem compare?_trans {x y z : Float} {o p : Ordering} (hxy : compare? x y = some o)
    (hyz : compare? y z = some p) (ho : o.isLE) (hp : p.isLE) :
    compare? x z = some (o.then p) := by
  obtain ⟨a, b, hx, hy, rfl⟩ := compare?_eq_some_iff.1 hxy
  obtain ⟨b', c, hy', hz, rfl⟩ := compare?_eq_some_iff.1 hyz
  cases hy.symm.trans hy'
  exact compare?_eq_some_iff.2 ⟨a, c, hx, hz, compare_eq_then ho hp⟩

end Double

/-! ## Values -/

namespace Value

/-- Values that compare are both strings, both sequences or both stand for numbers. -/
theorem compare?_eq_some_iff {a b : Value} {o : Ordering} :
    compare? a b = some o ↔
      (∃ x y, a = .string x ∧ b = .string y ∧ compare x y = o) ∨
      (∃ xs ys, a = .sequence xs ∧ b = .sequence ys ∧ compareItems? xs ys = some o) ∨
      ∃ x y, a.number? = some x ∧ b.number? = some y ∧ Double.compare? x y = some o := by
  cases a <;> cases b <;> simp [compare?, number?]

/-- The first items that differ decide. -/
theorem compareItems?_cons_eq_some_iff {x y : Value} {xs ys : List Value} {o : Ordering} :
    compareItems? (x :: xs) (y :: ys) = some o ↔
      compare? x y = some .eq ∧ compareItems? xs ys = some o ∨
      o ≠ .eq ∧ compare? x y = some o := by
  rw [compareItems?]
  rcases compare? x y with _ | _ | _ | _ <;> cases o <;> simp

mutual

theorem compare?_symm {a b : Value} {o : Ordering} (h : compare? a b = some o) :
    compare? b a = some o.swap := by
  rw [compare?_eq_some_iff] at h ⊢
  rcases h with ⟨x, y, rfl, rfl, h⟩ | ⟨xs, ys, rfl, rfl, h⟩ | ⟨x, y, ha, hb, h⟩
  · exact .inl ⟨y, x, rfl, rfl, h ▸ Std.OrientedCmp.eq_swap⟩
  · exact .inr (.inl ⟨ys, xs, rfl, rfl, compareItems?_symm h⟩)
  · refine .inr (.inr ⟨y, x, hb, ha, ?_⟩)
    rw [Double.compare?_swap, h, Option.map_some]

theorem compareItems?_symm {xs ys : List Value} {o : Ordering}
    (h : compareItems? xs ys = some o) : compareItems? ys xs = some o.swap := by
  match xs, ys with
  | [], [] | [], _ :: _ | _ :: _, [] =>
    cases h
    rfl
  | x :: xs, y :: ys =>
    rw [compareItems?_cons_eq_some_iff] at h ⊢
    rcases h with ⟨hx, h⟩ | ⟨hne, hx⟩
    · exact .inl ⟨compare?_symm hx, compareItems?_symm h⟩
    · exact .inr ⟨by cases o <;> simp_all, compare?_symm hx⟩

end

/-- The other way round, values compare the opposite way, or not at all as before. -/
theorem compare?_swap (a b : Value) : compare? b a = (compare? a b).map Ordering.swap := by
  cases hab : compare? a b with
  | some o => exact compare?_symm hab
  | none =>
    cases hba : compare? b a with
    | none => rfl
    | some o => cases hab.symm.trans (compare?_symm hba)

mutual

/-- Comparisons in a row of which neither descends add up. -/
theorem compare?_trans {a b c : Value} {o p : Ordering} (hab : compare? a b = some o)
    (hbc : compare? b c = some p) (ho : o.isLE) (hp : p.isLE) :
    compare? a c = some (o.then p) := by
  rw [compare?_eq_some_iff] at hab hbc ⊢
  rcases hab with ⟨x, y, rfl, rfl, hxy⟩ | ⟨xs, ys, rfl, rfl, hxy⟩ | ⟨x, y, ha, hb, hxy⟩
  · obtain ⟨z, rfl, hyz⟩ : ∃ z, c = .string z ∧ compare y z = p := by simpa [number?] using hbc
    subst hxy hyz
    exact .inl ⟨x, z, rfl, rfl, compare_eq_then ho hp⟩
  · obtain ⟨zs, rfl, hyz⟩ : ∃ zs, c = .sequence zs ∧ compareItems? ys zs = some p := by
      simpa [number?] using hbc
    exact .inr (.inl ⟨xs, zs, rfl, rfl, compareItems?_trans hxy hyz ho hp⟩)
  · obtain ⟨z, hc, hyz⟩ : ∃ z, c.number? = some z ∧ Double.compare? y z = some p := by
      rcases hbc with ⟨_, _, rfl, -, -⟩ | ⟨_, _, rfl, -, -⟩ | ⟨y', z, hb', hc, hyz⟩
      · cases hb
      · cases hb
      · cases hb.symm.trans hb'
        exact ⟨z, hc, hyz⟩
    exact .inr (.inr ⟨x, z, ha, hc, Double.compare?_trans hxy hyz ho hp⟩)

theorem compareItems?_trans {xs ys zs : List Value} {o p : Ordering}
    (hxy : compareItems? xs ys = some o) (hyz : compareItems? ys zs = some p) (ho : o.isLE)
    (hp : p.isLE) : compareItems? xs zs = some (o.then p) := by
  match xs, ys, zs with
  | [], [], _ =>
    cases hxy
    exact hyz
  | [], _ :: _, [] =>
    cases hyz
    cases hp
  | [], _ :: _, _ :: _ =>
    cases hxy
    rfl
  | _ :: _, [], _ =>
    cases hxy
    cases ho
  | _ :: _, _ :: _, [] =>
    cases hyz
    cases hp
  | x :: xs, y :: ys, z :: zs =>
    rw [compareItems?_cons_eq_some_iff] at hxy hyz ⊢
    rcases hxy with ⟨hx, hxs⟩ | ⟨hne, hx⟩ <;> rcases hyz with ⟨hy, hys⟩ | ⟨hne', hy⟩
    · exact .inl ⟨compare?_trans hx hy rfl rfl, compareItems?_trans hxs hys ho hp⟩
    · have hxz := compare?_trans hx hy rfl hp
      exact .inr (by cases o <;> cases p <;> simp_all [Ordering.then])
    · have hxz := compare?_trans hx hy ho rfl
      exact .inr (by cases o <;> cases p <;> simp_all [Ordering.then])
    · have hxz := compare?_trans hx hy ho hp
      exact .inr (by cases o <;> cases p <;> simp_all [Ordering.then])

end

end Value

end CardPress
