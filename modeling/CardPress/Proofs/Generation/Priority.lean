import CardPress.Generation.Priority
import CardPress.Proofs.Value.Comparing

/-!
# The running order

Priorities that compare pairwise order their places, and the running order is the one arrangement
that follows them. The order of places is total although comparing is not: a place is never compared
with itself, so that one priority that does not even compare with itself may stand among nulls.

## Main definitions

* `Priority.Comparable` — priorities at different places compare.
* `Priority.Ahead` — the priority at one place goes before that at another.
* `Priority.NotBehind` — the same for places that may be equal.

## Main result

* `Priority.order_unique` — the running order is the only ascending one, or the declared one.
-/

namespace CardPress.Priority

/-! ## Comparing priorities -/

@[simp] theorem compare?_null_null : compare? .null .null = some .eq := rfl

theorem compare?_null_left {b : Value} (h : b ≠ .null) : compare? .null b = some .gt := by
  cases b <;> first | rfl | exact absurd rfl h

theorem compare?_null_right {a : Value} (h : a ≠ .null) : compare? a .null = some .lt := by
  cases a <;> first | rfl | exact absurd rfl h

theorem compare?_of_ne_null {a b : Value} (ha : a ≠ .null) (hb : b ≠ .null) :
    compare? a b = Value.compare? a b := by
  cases a <;> cases b <;> first | rfl | contradiction

/-- The other way round, priorities compare the opposite way, or not at all as before. -/
theorem compare?_swap (a b : Value) : compare? b a = (compare? a b).map Ordering.swap := by
  by_cases ha : a = .null <;> by_cases hb : b = .null
  · rw [ha, hb]
    rfl
  · rw [ha, compare?_null_left hb, compare?_null_right hb]
    rfl
  · rw [hb, compare?_null_left ha, compare?_null_right ha]
    rfl
  · rw [compare?_of_ne_null ha hb, compare?_of_ne_null hb ha]
    exact Value.compare?_swap a b

/-- What is not behind null is null. -/
theorem eq_null_of_compare?_null {b : Value} {o : Ordering} (h : compare? .null b = some o)
    (ho : o.isLE) : b = .null := by
  by_contra hb
  cases (compare?_null_left hb).symm.trans h
  cases ho

/-- Comparisons in a row of which neither descends add up. -/
theorem compare?_trans {a b c : Value} {o p : Ordering} (hab : compare? a b = some o)
    (hbc : compare? b c = some p) (ho : o.isLE) (hp : p.isLE) :
    compare? a c = some (o.then p) := by
  by_cases ha : a = .null
  · subst ha
    cases eq_null_of_compare?_null hab ho
    cases eq_null_of_compare?_null hbc hp
    cases hab
    exact hbc
  by_cases hb : b = .null
  · subst hb
    cases eq_null_of_compare?_null hbc hp
    cases (compare?_null_right ha).symm.trans hab
    exact hab
  by_cases hc : c = .null
  · subst hc
    cases (compare?_null_right hb).symm.trans hbc
    rw [compare?_null_right ha]
    cases o <;> first | rfl | cases ho
  · rw [compare?_of_ne_null ha hb] at hab
    rw [compare?_of_ne_null hb hc] at hbc
    rw [compare?_of_ne_null ha hc]
    exact Value.compare?_trans hab hbc ho hp

/-! ## Places -/

/-- Any two priorities at different places compare. -/
def Comparable (priorities : List Value) : Prop :=
  ∀ (i j : Nat) (a b : Value), i ≠ j → priorities[i]? = some a → priorities[j]? = some b →
    (compare? a b).isSome

/-- The priority at one place is less than that at another, or equal and declared before it. -/
def Ahead (priorities : List Value) (i j : Nat) : Prop :=
  ∃ a b, priorities[i]? = some a ∧ priorities[j]? = some b ∧
    (compare? a b = some .lt ∨ compare? a b = some .eq ∧ i < j)

/-- Two places are the same one or their priorities do not descend. -/
def NotBehind (priorities : List Value) (i j : Nat) : Prop :=
  i = j ∨ ∃ a b o, priorities[i]? = some a ∧ priorities[j]? = some b ∧
    compare? a b = some o ∧ o.isLE

variable {priorities : List Value}

theorem allComparable_iff_pairwise :
    allComparable priorities = true ↔ priorities.Pairwise fun a b => (compare? a b).isSome := by
  induction priorities with
  | nil => simp [allComparable]
  | cons a rest ih => simp [allComparable, ih]

/-- It is enough to compare each priority with those declared after it. -/
theorem allComparable_iff : allComparable priorities = true ↔ Comparable priorities := by
  rw [allComparable_iff_pairwise, List.pairwise_iff_getElem]
  constructor
  · intro h i j a b hne hi hj
    obtain ⟨hil, rfl⟩ := List.getElem?_eq_some_iff.1 hi
    obtain ⟨hjl, rfl⟩ := List.getElem?_eq_some_iff.1 hj
    rcases Nat.lt_or_gt_of_ne hne with hlt | hgt
    · exact h i j hil hjl hlt
    · rw [compare?_swap, Option.isSome_map]
      exact h j i hjl hil hgt
  · intro h i j hi hj hlt
    exact h i j _ _ (Nat.ne_of_lt hlt) (List.getElem?_eq_getElem hi) (List.getElem?_eq_getElem hj)

theorem ahead_iff {i j : Nat} {a b : Value} (hi : priorities[i]? = some a)
    (hj : priorities[j]? = some b) :
    Ahead priorities i j ↔ compare? a b = some .lt ∨ compare? a b = some .eq ∧ i < j := by
  simp [Ahead, hi, hj]

/-- Of two places at most one is ahead of the other. -/
theorem Ahead.asymm {i j : Nat} (h : Ahead priorities i j) : ¬ Ahead priorities j i := by
  obtain ⟨a, b, hi, hj, h⟩ := h
  rw [ahead_iff hj hi, compare?_swap a b]
  rcases h with h | ⟨h, hlt⟩ <;> simp [h]
  omega

theorem Ahead.trans {i j k : Nat} (hij : Ahead priorities i j) (hjk : Ahead priorities j k) :
    Ahead priorities i k := by
  obtain ⟨a, b, hi, hj, hab⟩ := hij
  obtain ⟨b', c, hj', hk, hbc⟩ := hjk
  cases hj.symm.trans hj'
  refine ⟨a, c, hi, hk, ?_⟩
  rcases hab with hab | ⟨hab, hij⟩ <;> rcases hbc with hbc | ⟨hbc, hjk⟩
  · exact .inl (compare?_trans hab hbc rfl rfl)
  · exact .inl (compare?_trans hab hbc rfl rfl)
  · exact .inl (compare?_trans hab hbc rfl rfl)
  · exact .inr ⟨compare?_trans hab hbc rfl rfl, Nat.lt_trans hij hjk⟩

theorem Comparable.ahead_or_ahead (h : Comparable priorities) {i j : Nat} {a b : Value}
    (hne : i ≠ j) (hi : priorities[i]? = some a) (hj : priorities[j]? = some b) :
    Ahead priorities i j ∨ Ahead priorities j i := by
  obtain ⟨o, ho⟩ := Option.isSome_iff_exists.1 (h i j a b hne hi hj)
  rw [ahead_iff hi hj, ahead_iff hj hi, compare?_swap a b, ho]
  cases o with
  | lt | gt => simp
  | eq => simpa using Nat.lt_or_gt_of_ne hne

theorem NotBehind.trans {i j k : Nat} (hij : NotBehind priorities i j)
    (hjk : NotBehind priorities j k) : NotBehind priorities i k := by
  rcases hij with rfl | ⟨a, b, o, hi, hj, hab, ho⟩
  · exact hjk
  rcases hjk with rfl | ⟨b', c, p, hj', hk, hbc, hp⟩
  · exact .inr ⟨a, b, o, hi, hj, hab, ho⟩
  · cases hj.symm.trans hj'
    refine .inr ⟨a, c, o.then p, hi, hk, compare?_trans hab hbc ho hp, ?_⟩
    cases o <;> simp_all [Ordering.then]

/-- Of two places one is not behind the other. -/
theorem Comparable.total (h : Comparable priorities) {i j : Nat} (hi : i < priorities.length)
    (hj : j < priorities.length) : NotBehind priorities i j ∨ NotBehind priorities j i := by
  by_cases hne : i = j
  · exact .inl (.inl hne)
  have hi' := List.getElem?_eq_getElem hi
  have hj' := List.getElem?_eq_getElem hj
  obtain ⟨o, ho⟩ := Option.isSome_iff_exists.1 (h i j _ _ hne hi' hj')
  cases o with
  | lt | eq => exact .inl (.inr ⟨_, _, _, hi', hj', ho, rfl⟩)
  | gt =>
    refine .inr (.inr ⟨_, _, .lt, hj', hi', ?_, rfl⟩)
    rw [compare?_swap, ho]
    rfl

/-! ## Sorting -/

/-- Among comparable priorities with their places, one goes before another if its place is ahead. -/
theorem precedes_iff_ahead (h : Comparable priorities) {a b : Value} {i j : Nat}
    (hi : priorities[i]? = some a) (hj : priorities[j]? = some b) :
    precedes (a, i) (b, j) = true ↔ i = j ∨ Ahead priorities i j := by
  rw [ahead_iff hi hj, precedes]
  by_cases hne : i = j
  · subst hne
    cases hi.symm.trans hj
    have hswap := compare?_swap a a
    rcases hself : compare? a a with _ | _ | _ | _ <;> simp_all
  · obtain ⟨o, ho⟩ := Option.isSome_iff_exists.1 (h i j a b hne hi hj)
    cases o with
    | lt | gt => simp [ho, hne]
    | eq => simp [ho, hne, Nat.le_iff_lt_or_eq]

/-- Sorting by a rule that is an order on the members of a list. -/
theorem pairwise_mergeSort_of_mem {α : Type} {le : α → α → Bool} {l : List α}
    (trans : ∀ a ∈ l, ∀ b ∈ l, ∀ c ∈ l, le a b → le b c → le a c)
    (total : ∀ a ∈ l, ∀ b ∈ l, le a b || le b a) : (l.mergeSort le).Pairwise (le · ·) := by
  have hmap : (l.attach.mergeSort fun a b => le a.1 b.1).map Subtype.val = l.mergeSort le := by
    rw [List.map_mergeSort (s := le) (fun _ _ _ _ => rfl), List.attach_map_subtype_val]
  rw [← hmap, List.pairwise_map]
  exact List.pairwise_mergeSort (fun a b c => trans a.1 a.2 b.1 b.2 c.1 c.2)
    (fun a b => total a.1 a.2 b.1 b.2) l.attach

/-- The running order has every place once. -/
theorem order_perm (priorities : List Value) :
    (order priorities).Perm (List.range priorities.length) := by
  rw [order]
  split
  · have hsnd : priorities.zipIdx.map (·.2) = List.range priorities.length := by
      rw [List.zipIdx_map_snd, List.range_eq_range']
    exact hsnd ▸ (List.mergeSort_perm _ _).map _
  · exact .refl _

/-- Comparable priorities ascend in the running order. -/
theorem pairwise_ahead_order (h : Comparable priorities) :
    (order priorities).Pairwise (Ahead priorities) := by
  have hget (e : Value × Nat) (he : e ∈ priorities.zipIdx) : priorities[e.2]? = some e.1 :=
    List.mem_zipIdx_iff_getElem?.1 he
  have hsorted : (priorities.zipIdx.mergeSort precedes).Pairwise (precedes · ·) := by
    refine pairwise_mergeSort_of_mem (fun a ha b hb c hc hab hbc => ?_) fun a ha b hb => ?_
    · rw [precedes_iff_ahead h (hget a ha) (hget b hb)] at hab
      rw [precedes_iff_ahead h (hget b hb) (hget c hc)] at hbc
      rw [precedes_iff_ahead h (hget a ha) (hget c hc)]
      rcases hab with hab | hab <;> rcases hbc with hbc | hbc
      · exact .inl (hab.trans hbc)
      · exact .inr (hab ▸ hbc)
      · exact .inr (hbc ▸ hab)
      · exact .inr (hab.trans hbc)
    · rw [Bool.or_eq_true, precedes_iff_ahead h (hget a ha) (hget b hb),
        precedes_iff_ahead h (hget b hb) (hget a ha)]
      by_cases hne : a.2 = b.2
      · exact .inl (.inl hne)
      · exact (h.ahead_or_ahead hne (hget a ha) (hget b hb)).imp .inr .inr
  have horder : order priorities = (priorities.zipIdx.mergeSort precedes).map (·.2) := by
    rw [order, if_pos (allComparable_iff.2 h)]
  have hnodup := (order_perm priorities).nodup_iff.2 List.nodup_range
  rw [horder] at hnodup ⊢
  rw [List.Nodup, List.pairwise_map] at hnodup
  rw [List.pairwise_map]
  refine (hsorted.and hnodup).imp_of_mem fun {a b} ha hb hab => ?_
  rw [List.mem_mergeSort] at ha hb
  exact ((precedes_iff_ahead h (hget a ha) (hget b hb)).1 hab.1).resolve_left hab.2

/-- Nothing else is behind null. -/
theorem Ahead.null {i j : Nat} (h : Ahead priorities i j) (hi : priorities[i]? = some .null) :
    priorities[j]? = some .null := by
  obtain ⟨a, b, hi', hj, h⟩ := h
  cases hi.symm.trans hi'
  rcases h with h | ⟨h, -⟩ <;> rw [eq_null_of_compare?_null h rfl] at hj <;> exact hj

/-- The running order has every place once. If priorities at different places compare, it is the one
order in which they ascend, equal ones as declared and null after everything else, and what is not
behind something else is a total preorder of the places; if not, it is the declared order. Comparing
the other way round always gives the opposite answer. -/
theorem order_unique (priorities : List Value) :
    (order priorities).Perm (List.range priorities.length) ∧
    (Comparable priorities →
      (∀ places : List Nat, places.Perm (List.range priorities.length) ∧
        places.Pairwise (Ahead priorities) ↔ places = order priorities) ∧
      (order priorities).Pairwise (fun i j =>
        priorities[i]? = some .null → priorities[j]? = some .null) ∧
      (∀ i j, i < priorities.length → j < priorities.length →
        NotBehind priorities i j ∨ NotBehind priorities j i) ∧
      ∀ i j k, NotBehind priorities i j → NotBehind priorities j k → NotBehind priorities i k) ∧
    (¬ Comparable priorities → order priorities = List.range priorities.length) ∧
    ∀ a b, compare? b a = (compare? a b).map Ordering.swap := by
  have hperm := order_perm priorities
  refine ⟨hperm, fun h => ⟨fun places => ⟨?_, ?_⟩, ?_, fun i j => h.total, fun i j k =>
    NotBehind.trans⟩, fun h => ?_, compare?_swap⟩
  · rintro ⟨hplaces, hascends⟩
    refine (hplaces.trans hperm.symm).eq_of_pairwise ?_ hascends (pairwise_ahead_order h)
    intro i j _ _ hij hji
    exact absurd hji hij.asymm
  · rintro rfl
    exact ⟨hperm, pairwise_ahead_order h⟩
  · exact (pairwise_ahead_order h).imp Ahead.null
  · rw [order, if_neg (mt allComparable_iff.1 h)]

/-- A NaN compares with null, and with itself it is never compared. -/
example : order [.null, .number Double.nan, .null] = [1, 0, 2] := by cbv

end CardPress.Priority
