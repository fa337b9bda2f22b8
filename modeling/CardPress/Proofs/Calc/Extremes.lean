import CardPress.Calc
import CardPress.Proofs.Outcome
import CardPress.Proofs.Value.Comparing

/-!
# Least and greatest items

Looking for a least item compares each item with the best one so far and with no other. As
comparisons in a row add up, the best one compares with all items that have been passed, also with
those that it was never compared with: it is the first of the least ones. The same goes for a
greatest item.

## Main definition

* `Value.FirstAt` — the item at a place comes before all others in an order, and before its equals
  by place.

## Main results

* `Value.FirstAt.snoc` — one more item takes the place or leaves it.
* `Value.FirstAt.unique` — there is only one such place.
* `Calc.firstAt_extreme` — what is found when looking for an item.
* `Calc.min_max_first` — what the two operations give.
-/

namespace CardPress

namespace Value

variable {wanted o p : Ordering} {a b c v w : Value} {items : List Value} {i j : ℕ}

/-- Comparisons in a row add up if they go the same way. -/
theorem compare?_trans_same (hab : compare? a b = some o) (hbc : compare? b c = some p)
    (ho : o = wanted ∨ o = .eq) (hp : p = wanted ∨ p = .eq) :
    compare? a c = some (o.then p) := by
  cases wanted with
  | lt | eq =>
    apply compare?_trans hab hbc
    · rcases ho with rfl | rfl <;> rfl
    · rcases hp with rfl | rfl <;> rfl
  | gt =>
    -- The other way round they ascend.
    have hca : compare? c a = some (p.swap.then o.swap) := by
      apply compare?_trans (compare?_symm hbc) (compare?_symm hab)
      · rcases hp with rfl | rfl <;> rfl
      · rcases ho with rfl | rfl <;> rfl
    rw [compare?_symm hca]
    rcases ho with rfl | rfl <;> rcases hp with rfl | rfl <;> rfl

/-- The item at a place compares as wanted with all items before it, and at least equals all items
after it. -/
structure FirstAt (wanted : Ordering) (items : List Value) (i : ℕ) (v : Value) : Prop where
  getElem? : items[i]? = some v
  before : ∀ j w, j < i → items[j]? = some w → compare? v w = some wanted
  after : ∀ j w, i < j → items[j]? = some w → ∃ o, compare? v w = some o ∧ (o = wanted ∨ o = .eq)

namespace FirstAt

theorem singleton (wanted : Ordering) (v : Value) : FirstAt wanted [v] 0 v where
  getElem? := rfl
  before j w hj := by omega
  after j w hj hw := by
    have hlength := (List.getElem?_eq_some_iff.1 hw).1
    simp at hlength
    omega

/-- What compares as wanted with the first item does so with every item. -/
theorem compare?_of_wanted (h : FirstAt wanted items i v) (hwv : compare? w v = some wanted)
    {u : Value} (hu : items[j]? = some u) : compare? w u = some wanted := by
  have hwu {p : Ordering} (hvu : compare? v u = some p) (hp : p = wanted ∨ p = .eq) :
      compare? w u = some wanted := by
    rw [compare?_trans_same hwv hvu (.inl rfl) hp]
    rcases hp with rfl | rfl
    · cases p <;> rfl
    · cases wanted <;> rfl
  rcases lt_trichotomy j i with hlt | rfl | hgt
  · exact hwu (h.before j u hlt hu) (.inl rfl)
  · cases h.getElem?.symm.trans hu
    exact hwv
  · obtain ⟨p, hvu, hp⟩ := h.after j u hgt hu
    exact hwu hvu hp

/-- One more item takes the place if it compares as wanted with the item there, and leaves it
otherwise. -/
theorem snoc (hne : wanted ≠ .eq) (h : FirstAt wanted items i v) (hwv : compare? w v = some o) :
    ∃ k, FirstAt wanted (items ++ [w]) k (if o = wanted then w else v) := by
  have hlength : i < items.length := (List.getElem?_eq_some_iff.1 h.getElem?).1
  by_cases ho : o = wanted
  · subst ho
    rw [if_pos rfl]
    refine ⟨items.length, by simp, fun j u hj hu => ?_, fun j u hj hu => ?_⟩
    · rw [List.getElem?_append_left hj] at hu
      exact h.compare?_of_wanted hwv hu
    · have hbound := (List.getElem?_eq_some_iff.1 hu).1
      simp at hbound
      omega
  · rw [if_neg ho]
    refine ⟨i, ?_, fun j u hj hu => ?_, fun j u hj hu => ?_⟩
    · rw [List.getElem?_append_left hlength, h.getElem?]
    · rw [List.getElem?_append_left (by omega)] at hu
      exact h.before j u hj hu
    · by_cases hold : j < items.length
      · rw [List.getElem?_append_left hold] at hu
        exact h.after j u hj hu
      · obtain rfl : u = w := by
          rw [List.getElem?_append_right (by omega)] at hu
          simpa using (List.mem_of_getElem? hu)
        refine ⟨o.swap, compare?_symm hwv, ?_⟩
        cases o <;> cases wanted <;> simp at ho hne ⊢

/-- There is only one place. -/
theorem unique (hne : wanted ≠ .eq) (hi : FirstAt wanted items i v)
    (hj : FirstAt wanted items j w) : i = j := by
  -- The later one of two would have to be wanted before the earlier one, and the other way round.
  have hnot {i j : ℕ} {v w : Value} (hi : FirstAt wanted items i v)
      (hj : FirstAt wanted items j w) : ¬ i < j := by
    intro hlt
    have hwv := hj.before i v hlt hi.getElem?
    obtain ⟨o, hvw, ho⟩ := hi.after j w hlt hj.getElem?
    cases hvw.symm.trans (compare?_symm hwv)
    cases wanted <;> simp at ho hne
  have := hnot hi hj
  have := hnot hj hi
  omega

end FirstAt

end Value

namespace Calc

open Value

variable {wanted : Ordering} {before rest items args : List Value} {first v : Value} {i : ℕ}

/-- Of the item so far and the next one, the one to go on with. -/
def better (wanted : Ordering) (best item : Value) : Except Fault Value :=
  match compare? item best with
  | none => fail (.cannotCompare item.kind best.kind)
  | some o => .ok (if o = wanted then item else best)

theorem extreme_of_spread_cons (h : spread args = first :: rest) :
    extreme wanted args = rest.foldlM (better wanted) first := by
  rw [extreme, h]
  rfl

/-- Going on with the better one of two keeps the first item first. -/
theorem firstAt_better (hne : wanted ≠ .eq) (h : FirstAt wanted before i first) {item : Value}
    (hv : better wanted first item = .ok v) : ∃ k, FirstAt wanted (before ++ [item]) k v := by
  unfold better at hv
  split at hv
  · cases hv
  · next o ho =>
    cases hv
    exact h.snoc hne ho

/-- So it is for any number of items. -/
theorem firstAt_foldlM (hne : wanted ≠ .eq) (h : FirstAt wanted before i first)
    (hv : rest.foldlM (better wanted) first = .ok v) :
    ∃ k, FirstAt wanted (before ++ rest) k v := by
  induction rest generalizing before first i with
  | nil =>
    cases hv
    exact ⟨i, by simpa using h⟩
  | cons item rest ih =>
    rw [List.foldlM_cons] at hv
    obtain ⟨next, hnext, hv⟩ := bind_eq_ok_iff.1 hv
    obtain ⟨j, hj⟩ := firstAt_better hne h hnext
    rw [List.append_cons]
    exact ih hj hv

theorem firstAt_extreme (hne : wanted ≠ .eq) (hv : extreme wanted args = .ok v) :
    ∃ k, FirstAt wanted (spread args) k v := by
  cases hspread : spread args with
  | nil =>
    rw [extreme, hspread] at hv
    cases hv
  | cons first rest =>
    rw [extreme_of_spread_cons hspread] at hv
    exact firstAt_foldlM hne (.singleton wanted first) hv

/-- Any two of the items compare. -/
def AllCompare (items : List Value) : Prop :=
  items.Pairwise fun a b => (compare? a b).isSome = true

theorem better_eq_or (wanted : Ordering) (hab : (compare? first v).isSome = true) :
    better wanted first v = .ok first ∨ better wanted first v = .ok v := by
  obtain ⟨o, ho⟩ := Option.isSome_iff_exists.1 hab
  unfold better
  rw [compare?_symm ho]
  dsimp only
  split
  · exact .inr rfl
  · exact .inl rfl

/-- Nothing goes wrong with items that compare. -/
theorem exists_foldlM_better (h : AllCompare (first :: rest)) :
    ∃ v, rest.foldlM (better wanted) first = .ok v := by
  induction rest generalizing first with
  | nil => exact ⟨first, rfl⟩
  | cons item rest ih =>
    obtain ⟨hfirst, hitem, hrest⟩ : (∀ v ∈ item :: rest, (compare? first v).isSome = true) ∧
        (∀ v ∈ rest, (compare? item v).isSome = true) ∧ AllCompare rest := by
      simpa [AllCompare] using h
    rw [List.foldlM_cons]
    rcases better_eq_or wanted (hfirst item List.mem_cons_self) with hnext | hnext
    · rw [hnext]
      refine ih (List.pairwise_cons.2 ⟨fun v hv => ?_, hrest⟩)
      exact hfirst v (List.mem_cons_of_mem _ hv)
    · rw [hnext]
      exact ih (List.pairwise_cons.2 ⟨hitem, hrest⟩)

theorem exists_extreme (hne : spread args ≠ []) (h : AllCompare (spread args)) :
    ∃ v, extreme wanted args = .ok v := by
  obtain ⟨first, rest, hspread⟩ := List.exists_cons_of_ne_nil hne
  rw [extreme_of_spread_cons hspread]
  exact exists_foldlM_better (hspread ▸ h)

/-- What is given is the item at one place: it comes before all items ahead of that place, and no
item behind it comes before it. Something is given if there are items and any two of them
compare. -/
theorem min_max_first {name : String} {wanted : Ordering}
    (h : (name, wanted) ∈ [("min", .lt), ("max", .gt)]) (args : List Value) :
    (∀ v, calculate name args = .ok v → ∃! i, FirstAt wanted (spread args) i v) ∧
      (spread args ≠ [] → AllCompare (spread args) → ∃ v, calculate name args = .ok v) := by
  obtain ⟨hne, hname⟩ : wanted ≠ .eq ∧ operation? name = some (extreme wanted) := by
    simp only [List.mem_cons, Prod.mk.injEq, List.not_mem_nil, or_false] at h
    rcases h with ⟨rfl, rfl⟩ | ⟨rfl, rfl⟩
    · exact ⟨by decide, rfl⟩
    · exact ⟨by decide, rfl⟩
  simp only [calculate, hname, mapError_eq_ok_iff]
  constructor
  · intro v hv
    obtain ⟨i, hi⟩ := firstAt_extreme hne hv
    exact ⟨i, hi, fun j hj => hj.unique hne hi⟩
  · exact exists_extreme

/-- Three lists of which the first and the last are never compared; the one between them is the
least. -/
def ranks : List Value :=
  [.sequence [.number 1.0, .string "b"], .sequence [.bool true, .string "a", .null],
    .sequence [.number 2.0, .null]]

theorem min_max_first_ranks :
    ("min", Ordering.lt) ∈ [("min", Ordering.lt), ("max", .gt)] ∧
      calculate "min" [.sequence ranks] = .ok (ranks.getD 1 .null) ∧
      (∃! i, FirstAt .lt ranks i (ranks.getD 1 .null)) ∧
      (spread ranks ≠ [] ∧ AllCompare (spread ranks) ∧ ∃ v, calculate "min" ranks = .ok v) := by
  have hmin : ("min", Ordering.lt) ∈ [("min", Ordering.lt), ("max", .gt)] := by decide
  have hfound : calculate "min" [.sequence ranks] = .ok (ranks.getD 1 .null) := rfl
  have hne : spread ranks ≠ [] := by simp [ranks, spread]
  have hcompare : AllCompare (spread ranks) := by
    simp only [AllCompare, ranks, spread, List.pairwise_cons, List.forall_mem_cons]
    refine ⟨⟨by decide, by decide, by simp⟩, ⟨by decide, by simp⟩, by simp, .nil⟩
  exact ⟨hmin, hfound, (min_max_first hmin [.sequence ranks]).1 _ hfound, hne, hcompare,
    (min_max_first hmin ranks).2 hne hcompare⟩

end Calc

end CardPress
